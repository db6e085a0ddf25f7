import Mathlib.Data.List.Induction
import KeyPrecedence.Proofs.Logging.Logger
import KeyPrecedence.Script.LoggerSession

/-!
# When a switch of the verbose mode takes effect

The flag changes before the logger is configured anew, and stays changed where that fails. A
later switch to the same mode then finds nothing to change and comes through without effect, until
a switch to the other mode is tried.

* `Logger.levelOf`: the level of a mode in an environment;
* `LoggerStep.Change`, `change`: all that one step can do;
* `LoggerStep.reached`: the logger after a list of steps;
* `LoggerStep.Stuck`: a switch to a mode failed and none to the other mode was tried after it;
* `LoggerStep.accounted`: the mode asked for last is in force, unless it is stuck;
* `LoggerStep.switch_takes_effect_iff`: which of the switches that come through take effect.
-/

namespace KeyPrecedence.Logger

variable {environment : Option String} {logger : Logger}

/-- The level of the verbose mode, or of the usual one. -/
def levelOf (environment : Option String) (verbose : Bool) : Level :=
  wanted { ofEnvironment environment with verbose }

theorem wanted_eq (h : logger.production = (ofEnvironment environment).production) :
    logger.wanted = levelOf environment logger.verbose := by
  simp [levelOf, wanted, h]

/-- The first configuration. -/
theorem start_first (h : ¬ logger.isConfigured) (verbose : Option Bool) :
    ∃ announcement, logger.start verbose =
      ({ logger with verbose := verbose.getD logger.verbose },
        configure { logger with verbose := verbose.getD logger.verbose } announcement) :=
  ⟨_, if_neg h⟩

theorem switch_early (h : ¬ logger.isConfigured) (on : Bool) :
    logger.switch on = ({ logger with verbose := on }, .nothing) :=
  if_neg fun changes => h changes.2

/-- The flag is set before it is known whether the logger can be configured. -/
theorem switch_obstructed (h : logger.isConfigured) {text : String}
    (obstructed : logger.obstacle = some text) {on : Bool} (other : on ≠ logger.verbose) :
    logger.switch on = ({ logger with verbose := on }, .failure text) := by
  refine (if_pos ⟨other, h⟩).trans ?_
  simp only [configure, obstructed]

end KeyPrecedence.Logger

namespace KeyPrecedence.Script.LoggerStep

open Logger

variable {environment : Option String} {steps : List LoggerStep} {step : LoggerStep}
  {logger next : Logger} {on : Bool}

/-! ### One step -/

/-- What a step does to the mode asked for and to the threshold in force. -/
inductive Change (logger : Logger) (step : LoggerStep) (failure : Option Fault)
    (next : Logger) : Prop
  /-- Nothing changes; a switch that changes nothing asked for the mode there was. -/
  | still (mode : next.verbose = logger.verbose) (inForce : next.threshold = logger.threshold)
      (unheard : ∀ on, step = .switch on → on = logger.verbose ∧ failure = none)
  /-- The logger is not configured yet, and no switch fails. -/
  | early (unset : logger.threshold = none) (still : next.threshold = none)
      (unheard : ∀ on, step = .switch on → failure = none)
  | started (unset : logger.threshold = none) (through : failure = none)
      (inForce : next.threshold = some next.wanted)
  | switched (asked : step = .switch (!logger.verbose)) (through : failure = none)
      (mode : next.verbose = !logger.verbose) (inForce : next.threshold = some next.wanted)
  | failed (asked : step = .switch (!logger.verbose)) (configured : logger.isConfigured)
      (fails : failure ≠ none)
      (mode : next.verbose = !logger.verbose) (inForce : next.threshold = logger.threshold)

theorem change_start (logger : Logger) (verbose : Option Bool) :
    Change logger (.start verbose) (take logger (.start verbose)).1.failure
      (take logger (.start verbose)).2 := by
  by_cases configured : logger.isConfigured
  · have same : logger.start verbose = (logger, .nothing) := if_pos configured
    rw [take, same]
    exact .still rfl rfl nofun
  have unset : logger.threshold = none := by simpa [isConfigured] using configured
  obtain ⟨announcement, first⟩ := start_first configured verbose
  rw [take, first, configure]
  cases obstacle : logger.obstacle with
  | none => exact .started unset rfl rfl
  | some text => exact .early unset unset nofun

theorem change_switch (logger : Logger) (on : Bool) :
    Change logger (.switch on) (take logger (.switch on)).1.failure
      (take logger (.switch on)).2 := by
  by_cases same : on = logger.verbose
  · rw [same, take, switch_same]
    exact .still rfl rfl fun _ asked => ⟨(LoggerStep.switch.inj asked).symm, rfl⟩
  have other : on = !logger.verbose := Bool.eq_not_of_ne same
  by_cases configured : logger.isConfigured
  · cases obstacle : logger.obstacle with
    | none =>
      rw [take, Ready.switch_other ⟨configured, obstacle⟩ same]
      exact .switched (congrArg _ other) rfl other rfl
    | some text =>
      rw [take, switch_obstructed configured obstacle same]
      exact .failed (congrArg _ other) configured nofun other rfl
  · have unset : logger.threshold = none := by simpa [isConfigured] using configured
    rw [take, switch_early configured]
    exact .early unset unset fun _ _ => rfl

theorem change (logger : Logger) (step : LoggerStep) :
    Change logger step (step.take logger).1.failure (step.take logger).2 := by
  cases step with
  | start verbose => exact change_start logger verbose
  | switch on => exact change_switch logger on
  | emit feature level template values =>
    have same : (take logger (.emit feature level template values)).2 = logger := by
      simp only [take]
      split <;> rfl
    rw [same]
    exact .still rfl rfl nofun
  | obstruct text => exact .still rfl rfl nofun

theorem production_endStep (step : Logger × Pending) :
    (endStep step).2.production = step.1.production := by
  obtain ⟨logger, _ | _ | _⟩ := step <;> rfl

theorem production_take (logger : Logger) (step : LoggerStep) :
    (step.take logger).2.production = logger.production := by
  cases step with
  | start | switch =>
    simp only [take, production_endStep, Logger.start, Logger.switch]
    split <;> rfl
  | emit =>
    simp only [take]
    split <;> rfl
  | obstruct => rfl

/-- A call that fails leaves the threshold in force. -/
theorem threshold_of_failure (h : (step.take logger).1.failure ≠ none) :
    (step.take logger).2.threshold = logger.threshold := by
  cases change logger step with
  | still _ inForce => exact inForce
  | early unset still => rw [still, unset]
  | started _ through | switched _ through => exact absurd through h
  | failed _ _ _ _ inForce => exact inForce

theorem isConfigured_take (h : logger.isConfigured) (step : LoggerStep) :
    (step.take logger).2.isConfigured := by
  cases change logger step with
  | still _ inForce | failed _ _ _ _ inForce => rwa [isConfigured, inForce]
  | early unset | started unset => simp [isConfigured, unset] at h
  | switched _ _ _ inForce => simp [isConfigured, inForce]

theorem isConfigured_start {verbose : Option Bool}
    (h : ((LoggerStep.start verbose).take logger).1.failure = none) :
    ((LoggerStep.start verbose).take logger).2.isConfigured := by
  by_cases configured : logger.isConfigured
  · exact isConfigured_take configured _
  · obtain ⟨announcement, first⟩ := start_first configured verbose
    rw [take, first, configure] at h ⊢
    cases obstacle : logger.obstacle with
    | none => rfl
    | some text =>
      rw [obstacle] at h
      cases h

/-! ### Any number of steps -/

/-- The logger of an environment after some steps. -/
def reached (environment : Option String) (steps : List LoggerStep) : Logger :=
  steps.foldl (fun logger step => (step.take logger).2) (ofEnvironment environment)

/-- The step ends without an error when it is taken after the others. -/
def ComesThrough (environment : Option String) (steps : List LoggerStep)
    (step : LoggerStep) : Prop :=
  (step.take (reached environment steps)).1.failure = none

/-- A call that starts the logger has come through. -/
def Initialised (environment : Option String) (steps : List LoggerStep) : Prop :=
  ∃ earlier verbose later, steps = earlier ++ .start verbose :: later ∧
    ComesThrough environment earlier (.start verbose)

/-- A switch to the mode failed, and since then none to the other mode was tried. -/
def Stuck (environment : Option String) (steps : List LoggerStep) (on : Bool) : Prop :=
  ∃ earlier later, steps = earlier ++ .switch on :: later ∧
    ¬ ComesThrough environment earlier (.switch on) ∧ .switch (!on) ∉ later

theorem reached_snoc (environment : Option String) (steps : List LoggerStep) (step : LoggerStep) :
    reached environment (steps ++ [step]) = (step.take (reached environment steps)).2 := by
  simp [reached]

theorem production_reached (environment : Option String) (steps : List LoggerStep) :
    (reached environment steps).production = (ofEnvironment environment).production := by
  induction steps using List.reverseRecOn with
  | nil => rfl
  | append_singleton steps step ih => rw [reached_snoc, production_take, ih]

theorem stuck_snoc :
    Stuck environment (steps ++ [step]) on ↔
      step = .switch on ∧ ¬ ComesThrough environment steps step ∨
        Stuck environment steps on ∧ step ≠ .switch (!on) := by
  constructor
  · rintro ⟨earlier, later, split, fails, untried⟩
    cases later using List.reverseRecOn with
    | nil =>
      obtain ⟨rfl, last⟩ := List.append_inj' split rfl
      cases last
      exact .inl ⟨rfl, fails⟩
    | append_singleton later last =>
      rw [← List.cons_append, ← List.append_assoc] at split
      obtain ⟨rfl, same⟩ := List.append_inj' split rfl
      cases same
      simp only [List.mem_append, List.mem_singleton, not_or] at untried
      exact .inr ⟨⟨earlier, later, rfl, fails, untried.1⟩, Ne.symm untried.2⟩
  · rintro (⟨rfl, fails⟩ | ⟨⟨earlier, later, rfl, fails, untried⟩, other⟩)
    · exact ⟨steps, [], rfl, fails, List.not_mem_nil⟩
    · refine ⟨earlier, later ++ [step], by simp, fails, ?_⟩
      simp [untried, Ne.symm other]

/-- The mode asked for last is in force, unless switching to it failed and stays so. -/
def Accounted (environment : Option String) (steps : List LoggerStep) : Prop :=
  let logger := reached environment steps
  logger.isConfigured → logger.threshold = some (levelOf environment logger.verbose) ∨
    logger.threshold = some (levelOf environment !logger.verbose) ∧
      Stuck environment steps logger.verbose

theorem accounted (environment : Option String) (steps : List LoggerStep) :
    Accounted environment steps := by
  induction steps using List.reverseRecOn with
  | nil => exact nofun
  | append_singleton steps step ih =>
    have production := production_reached environment (steps ++ [step])
    simp only [Accounted, reached_snoc] at ih production ⊢
    intro configured
    cases change (reached environment steps) step with
    | still mode inForce unheard =>
      rw [isConfigured, inForce] at configured
      rw [mode, inForce]
      have kept : step ≠ .switch (!(reached environment steps).verbose) := by
        intro asked
        simpa using (unheard _ asked).1
      rcases ih configured with inForce | ⟨inForce, stuck⟩
      · exact .inl inForce
      · exact .inr ⟨inForce, stuck_snoc.2 (.inr ⟨stuck, kept⟩)⟩
    | early _ still => simp [isConfigured, still] at configured
    | started _ _ inForce | switched _ _ _ inForce =>
      exact .inl (inForce.trans (congrArg some (wanted_eq production)))
    | failed asked configured fails mode inForce =>
      rw [mode, inForce]
      rcases ih configured with inForce | ⟨inForce, -⟩
      · refine .inr ⟨by simpa using inForce, stuck_snoc.2 (.inl ⟨asked, fails⟩)⟩
      · exact .inl inForce

/-- Where a switch is stuck, the flag already says what was asked for. -/
theorem Stuck.verbose (h : Stuck environment steps on) :
    (reached environment steps).isConfigured ∧ (reached environment steps).verbose = on := by
  induction steps using List.reverseRecOn with
  | nil =>
    obtain ⟨_, _, split, -⟩ := h
    simp at split
  | append_singleton steps step ih =>
    rw [reached_snoc]
    rcases stuck_snoc.1 h with ⟨rfl, fails⟩ | ⟨stuck, other⟩
    · cases change (reached environment steps) (.switch on) with
      | still _ _ unheard => exact absurd (unheard on rfl).2 fails
      | early _ _ unheard => exact absurd (unheard on rfl) fails
      | started _ through | switched _ through => exact absurd through fails
      | failed asked configured _ mode _ =>
        exact ⟨isConfigured_take configured _, mode.trans (LoggerStep.switch.inj asked).symm⟩
    · obtain ⟨configured, rfl⟩ := ih stuck
      refine ⟨isConfigured_take configured _, ?_⟩
      cases change (reached environment steps) step with
      | still mode => exact mode
      | early unset | started unset => simp [isConfigured, unset] at configured
      | switched asked | failed asked => exact absurd asked other

theorem isConfigured_reached {earlier : List LoggerStep}
    (h : (reached environment earlier).isConfigured) (later : List LoggerStep) :
    (reached environment (earlier ++ later)).isConfigured := by
  induction later using List.reverseRecOn with
  | nil => simpa using h
  | append_singleton later step ih =>
    rw [← List.append_assoc, reached_snoc]
    exact isConfigured_take ih step

theorem Initialised.isConfigured (h : Initialised environment steps) :
    (reached environment steps).isConfigured := by
  obtain ⟨earlier, verbose, later, rfl, through⟩ := h
  have started : (reached environment (earlier ++ [.start verbose])).isConfigured := by
    rw [reached_snoc]
    exact isConfigured_start through
  simpa using isConfigured_reached started later

/-- The mode of a switch that comes through is in force afterwards exactly if it was before or
the switch found something to change. -/
theorem threshold_switch_iff (configured : (reached environment steps).isConfigured)
    (through : ComesThrough environment steps (.switch on)) :
    (reached environment (steps ++ [.switch on])).threshold = some (levelOf environment on) ↔
      (reached environment steps).threshold = some (levelOf environment on) ∨
        ¬ Stuck environment steps on := by
  have production := production_reached environment (steps ++ [.switch on])
  have accounted := accounted environment steps configured
  rw [reached_snoc] at production ⊢
  cases change (reached environment steps) (.switch on) with
  | still _ inForce unheard =>
    obtain ⟨rfl, -⟩ := unheard on rfl
    rw [inForce]
    constructor
    · exact .inl
    · rintro (same | free)
      · exact same
      · exact accounted.resolve_right fun stuck => free stuck.2
  | early unset | started unset => simp [isConfigured, unset] at configured
  | switched asked _ mode inForce =>
    have other : (reached environment steps).verbose ≠ on := by
      simp [LoggerStep.switch.inj asked]
    have takes : ((LoggerStep.switch on).take (reached environment steps)).2.threshold =
        some (levelOf environment on) := by
      rw [inForce, wanted_eq production, mode, LoggerStep.switch.inj asked]
    exact iff_of_true takes (.inr fun stuck => other stuck.verbose.2)
  | failed _ _ fails => exact absurd through fails

/-- A call that fails leaves what is in force. Once the logger is initialised, the mode of a switch
that comes through is in force afterwards exactly if it was already, or is not stuck. -/
theorem switch_takes_effect_iff (environment : Option String) (steps : List LoggerStep) :
    (∀ step, ¬ ComesThrough environment steps step →
      (reached environment (steps ++ [step])).threshold = (reached environment steps).threshold) ∧
    ∀ on, Initialised environment steps → ComesThrough environment steps (.switch on) →
      ((reached environment (steps ++ [.switch on])).threshold = some (levelOf environment on) ↔
        (reached environment steps).threshold = some (levelOf environment on) ∨
          ¬ Stuck environment steps on) := by
  constructor
  · intro step fails
    rw [reached_snoc]
    exact threshold_of_failure fails
  · intro on initialised through
    exact threshold_switch_iff initialised.isConfigured through

/-- Verbose mode is switched on while configuring fails; after that configuring works again. -/
def interrupted : List LoggerStep :=
  [.start none, .obstruct (some "busy"), .switch true, .obstruct none]

theorem interrupted_initialised (later : List LoggerStep) :
    Initialised none (interrupted ++ later) :=
  ⟨[], none, _, rfl, rfl⟩

/-- Switching off and on again brings verbose mode about. -/
theorem interrupted_mended :
    (reached none (interrupted ++ [.switch false] ++ [.switch true])).threshold = some .debug := by
  have untried : ¬ Stuck none (interrupted ++ [.switch false]) true := by
    intro stuck
    rcases stuck_snoc.1 stuck with ⟨same, -⟩ | ⟨-, other⟩
    · cases same
    · exact other rfl
  have through : ComesThrough none (interrupted ++ [.switch false]) (.switch true) := rfl
  exact ((switch_takes_effect_iff none _).2 true (interrupted_initialised _) through).2
    (.inr untried)

/-- Switching on once more comes through and changes nothing. -/
theorem interrupted_repeated : ¬ ∀ environment steps on,
    Initialised environment steps → ComesThrough environment steps (.switch on) →
      (reached environment (steps ++ [.switch on])).threshold = some (levelOf environment on) := by
  intro takes
  have debug := takes none interrupted true (interrupted_initialised []) rfl
  exact absurd debug (by decide)

end KeyPrecedence.Script.LoggerStep
