import KeyPrecedence.Proofs.Logging.Switching

/-!
# Which records appear

Where no configuration fails, it can be read off the steps taken so far which mode is current, and
with it what the threshold is.

* `LoggerStep.FirstStart`: the first step that started the logger, and what was before and after it;
* `LoggerStep.currentMode`: the mode that follows from these;
* `LoggerStep.InMode`: what a step gives while a mode is current;
* `LoggerStep.Accounts.snoc`: a step keeps the logger in accordance with the steps taken;
* `LoggerStep.records_follow_mode`: so every record of a run appears exactly if it should.
-/

namespace KeyPrecedence.Logger

variable {environment : Option String} {logger : Logger}

/-- The lowest level that appears in a mode. -/
def leastLevel (environment : Option String) (verbose : Bool) : Level :=
  if verbose then .debug else if environment = some "production" then .error else .info

theorem wanted_eq_leastLevel
    (h : logger.production = (ofEnvironment environment).production) :
    logger.wanted = leastLevel environment logger.verbose := by
  have named : (ofEnvironment environment).production ↔ environment = some "production" :=
    decide_eq_true_iff
  simp only [wanted, h, named, leastLevel]

/-- Whether a record appears while a level is the lowest that does. -/
theorem admits_of_threshold {least : Level} (h : logger.threshold = some least) :
    logger.admits = fun level => decide (least.rank ≤ level.rank) := by
  funext level
  simp [admits, h]

theorem configure_unobstructed (h : logger.obstacle = none) (announcement : Option Notice) :
    logger.configure announcement = .threshold logger.wanted announcement := by
  simp only [configure, h]

end KeyPrecedence.Logger

namespace KeyPrecedence.Script

/-- A configuration that does not fail has nothing in its way. -/
theorem unobstructed_of_endStep {logger : Logger} {announcement : Option Notice}
    (through : ∀ text,
      (endStep (logger, logger.configure announcement)).1.failure ≠ some (.raised text)) :
    logger.obstacle = none := by
  cases obstacle : logger.obstacle with
  | none => rfl
  | some text =>
    have failed : logger.configure announcement = .failure text := by
      simp only [Logger.configure, obstacle]
    rw [failed] at through
    exact absurd rfl (through text)

theorem playLogger_append (logger : Logger) (before after : List LoggerStep) :
    playLogger logger (before ++ after) = playLogger logger before ++
      playLogger (before.foldl (fun logger step => (step.take logger).2) logger) after := by
  induction before generalizing logger with
  | nil => rfl
  | cons step before ih => simp only [List.cons_append, playLogger, ih, List.foldl_cons]

theorem length_playLogger (logger : Logger) (steps : List LoggerStep) :
    (playLogger logger steps).length = steps.length := by
  induction steps generalizing logger with
  | nil => rfl
  | cons step steps ih => simp [playLogger, ih]

/-- A step of a run is taken by the logger that those before it have led to. -/
theorem getElem?_playLogger (environment : Option String) (before : List LoggerStep)
    (step : LoggerStep) (after : List LoggerStep) :
    (playLogger (.ofEnvironment environment) (before ++ step :: after))[before.length]? =
      some (step.take (LoggerStep.reached environment before)).1 := by
  rw [playLogger_append, List.getElem?_append_right (by simp [length_playLogger])]
  simp [length_playLogger, playLogger, LoggerStep.reached]

namespace LoggerStep

open Logger

variable {environment : Option String} {steps earlier later : List LoggerStep} {step : LoggerStep}
  {verbose : Option Bool} {logger : Logger} {mode on : Bool}

/-! ### The current mode -/

def asks : LoggerStep → Option Bool
  | switch on => some on
  | _ => none

/-- The mode that was asked for last. -/
def lastAsked (steps : List LoggerStep) : Option Bool := (steps.filterMap asks).getLast?

/-- The logger was started with an option, for the first time. -/
structure FirstStart (steps earlier : List LoggerStep) (verbose : Option Bool)
    (later : List LoggerStep) : Prop where
  split : steps = earlier ++ .start verbose :: later
  first : ∀ option, .start option ∉ earlier

/-- What was asked for last since the first start; or else what this was given, or what was asked
for before. -/
def currentMode (earlier : List LoggerStep) (verbose : Option Bool) (later : List LoggerStep) : Bool :=
  ((lastAsked later).or (verbose.or (lastAsked earlier))).getD false

/-- The record that a step writes of its own. -/
def written? : LoggerStep → Option Record
  | emit feature level template values =>
    if (Value.inherited? feature).isSome then none
    else (Template.expand? template values).map fun text => ⟨level, feature, text⟩
  | _ => none

/-- What a step gives once the logger was started and a mode is current. A switch to the other mode
says so, where the threshold of that mode lets it. -/
def InMode (environment : Option String) (mode : Bool) (view : LoggerView) : LoggerStep → Prop
  | emit feature level template values =>
    view.records = (written? (emit feature level template values)).toList.filter fun record =>
      (leastLevel environment mode).rank ≤ record.level.rank
  | switch on =>
    view.records = if on = mode then [] else
      [(Notice.verboseSwitched on).record].filter fun record =>
        (leastLevel environment on).rank ≤ record.level.rank
  | start _ => view.records = []
  | obstruct _ => view.records = []

/-- What a step gives before: only the first start may say something, and only of itself. -/
def BeforeStart (view : LoggerView) : LoggerStep → Prop
  | start _ => ∀ record ∈ view.records, record = Notice.loggerVerbose.record
  | _ => view.records = []

/-- No configuration fails. -/
def Smooth (environment : Option String) (steps : List LoggerStep) : Prop :=
  ∀ view ∈ playLogger (ofEnvironment environment) steps, ∀ text, view.failure ≠ some (.raised text)

theorem lastAsked_snoc (steps : List LoggerStep) (step : LoggerStep) :
    lastAsked (steps ++ [step]) = step.asks.or (lastAsked steps) := by
  unfold lastAsked
  cases asked : step.asks <;> simp [List.filterMap_append, asked]

theorem firstStart_snoc {later : List LoggerStep} (h : FirstStart steps earlier verbose later)
    (step : LoggerStep) : FirstStart (steps ++ [step]) earlier verbose (later ++ [step]) := by
  refine ⟨?_, h.first⟩
  rw [h.split]
  simp

/-- There is one first start at most. -/
theorem FirstStart.unique {others rest : List LoggerStep} {option : Option Bool}
    (h : FirstStart steps earlier verbose later) (other : FirstStart steps others option rest) :
    others = earlier ∧ option = verbose ∧ rest = later := by
  have split := h.split.symm.trans other.split
  obtain ⟨between, rfl, tail⟩ | ⟨between, rfl, tail⟩ := List.append_eq_append_iff.mp split
  · cases between with
    | nil => simpa [eq_comm] using tail
    | cons first between =>
      obtain ⟨rfl, -⟩ := List.cons.inj tail
      exact absurd (by simp) (other.first verbose)
  · cases between with
    | nil => simpa [eq_comm] using tail
    | cons first between =>
      obtain ⟨rfl, -⟩ := List.cons.inj tail
      exact absurd (by simp) (h.first option)

theorem firstStart_or_none (steps : List LoggerStep) :
    (∀ option, .start option ∉ steps) ∨
      ∃ earlier verbose later, FirstStart steps earlier verbose later := by
  induction steps using List.reverseRecOn with
  | nil => exact .inl fun _ => List.not_mem_nil
  | append_singleton steps step ih =>
    obtain unstarted | ⟨earlier, verbose, later, started⟩ := ih
    · cases step with
      | start verbose => exact .inr ⟨steps, verbose, [], rfl, unstarted⟩
      | switch | emit | obstruct => exact .inl (by simpa using unstarted)
    · exact .inr ⟨earlier, verbose, later ++ [step], firstStart_snoc started step⟩

theorem FirstStart.mem (h : FirstStart steps earlier verbose later) : .start verbose ∈ steps := by
  rw [h.split]
  simp

/-! ### One step -/

/-- The first start. -/
theorem take_start_first (unset : logger.threshold = none)
    (through : ∀ text, (take logger (.start verbose)).1.failure ≠ some (.raised text)) :
    ∃ announcement : Option Notice, (∀ notice ∈ announcement, notice = .loggerVerbose) ∧
      take logger (.start verbose) = endStep
        ({ logger with verbose := verbose.getD logger.verbose },
          .threshold (wanted { logger with verbose := verbose.getD logger.verbose })
            announcement) := by
  have unconfigured : ¬ logger.isConfigured := by simp [isConfigured, unset]
  let logger' : Logger := { logger with verbose := verbose.getD logger.verbose }
  let announcement : Option Notice := if logger'.verbose then some .loggerVerbose else none
  have first : logger.start verbose = (logger', logger'.configure announcement) := if_neg unconfigured
  refine ⟨announcement, by simp [announcement], ?_⟩
  rw [take, first] at through ⊢
  rw [configure_unobstructed (unobstructed_of_endStep through)]

/-- A switch of a logger that was started. -/
theorem take_switch_started (set : logger.isConfigured)
    (through : ∀ text, (take logger (.switch on)).1.failure ≠ some (.raised text)) :
    take logger (.switch on) =
      if on = logger.verbose then ({}, logger)
      else endStep ({ logger with verbose := on },
        .threshold (wanted { logger with verbose := on }) (some (.verboseSwitched on))) := by
  by_cases same : on = logger.verbose
  · rw [if_pos same, same, take, switch_same]
    rfl
  · let logger' : Logger := { logger with verbose := on }
    have other : logger.switch on = (logger', logger'.configure (some (.verboseSwitched on))) :=
      if_pos ⟨same, set⟩
    rw [if_neg same]
    rw [take, other] at through ⊢
    rw [configure_unobstructed (unobstructed_of_endStep through)]

/-- What is written of a step's own is let through by the threshold there is. -/
theorem records_emit (logger : Logger) (feature : String) (level : Level) (template : String)
    (values : List (String × Value)) :
    (take logger (.emit feature level template values)).1.records =
        (written? (.emit feature level template values)).toList.filter (logger.admits ·.level) ∧
      (take logger (.emit feature level template values)).2 = logger := by
  simp only [take, written?]
  split
  · exact ⟨rfl, rfl⟩
  · exact ⟨rfl, rfl⟩

/-! ### Any number of steps -/

/-- The logger is as the steps taken say: not configured and in the mode asked for last, or started
and in the current mode, with its threshold in force. -/
structure Accounts (environment : Option String) (steps : List LoggerStep) (logger : Logger) :
    Prop where
  production : logger.production = (ofEnvironment environment).production
  unset : (∀ option, .start option ∉ steps) →
    logger.threshold = none ∧ logger.verbose = (lastAsked steps).getD false
  started : ∀ earlier verbose later, FirstStart steps earlier verbose later →
    logger.verbose = currentMode earlier verbose later ∧
      logger.threshold = some (leastLevel environment (currentMode earlier verbose later))

theorem accounts_nil (environment : Option String) :
    Accounts environment [] (ofEnvironment environment) where
  production := rfl
  unset _ := ⟨rfl, rfl⟩
  started earlier verbose later h := by simpa using h.split

/-- Before the start a step changes the mode, or it is the start. -/
theorem Accounts.snoc_unstarted (h : Accounts environment steps logger)
    (unstarted : ∀ option, .start option ∉ steps)
    (through : ∀ text, (step.take logger).1.failure ≠ some (.raised text)) :
    Accounts environment (steps ++ [step]) (step.take logger).2 := by
  have production : (step.take logger).2.production = (ofEnvironment environment).production :=
    (production_take logger step).trans h.production
  obtain ⟨unset, mode⟩ := h.unset unstarted
  have still (same : (step.take logger).2.threshold = none)
      (asked : (step.take logger).2.verbose = (lastAsked (steps ++ [step])).getD false)
      (other : ∀ option, step ≠ .start option) :
      Accounts environment (steps ++ [step]) (step.take logger).2 := by
    have fresh : ∀ option, .start option ∉ steps ++ [step] := by
      simpa [unstarted] using fun option => (other option).symm
    exact ⟨production, fun _ => ⟨same, asked⟩,
      fun _ option _ started => absurd started.mem (fresh option)⟩
  cases step with
  | start verbose =>
    obtain ⟨announcement, -, took⟩ := take_start_first unset through
    have started : FirstStart (steps ++ [.start verbose]) steps verbose [] := ⟨rfl, unstarted⟩
    have current : verbose.getD logger.verbose = currentMode steps verbose [] := by
      rw [mode]
      cases verbose <;> rfl
    rw [took] at production ⊢
    refine ⟨production, fun fresh => absurd started.mem (fresh verbose), ?_⟩
    intro earlier option later other
    obtain ⟨rfl, rfl, rfl⟩ := started.unique other
    have least := wanted_eq_leastLevel production
    exact ⟨current, (congrArg some least).trans (by rw [← current]; rfl)⟩
  | switch on =>
    have unconfigured : ¬ logger.isConfigured := by simp [isConfigured, unset]
    have took : (take logger (.switch on)).2 = { logger with verbose := on } := by
      rw [take, switch_early unconfigured]
      rfl
    rw [took] at still ⊢
    exact still unset (by simp [lastAsked_snoc, asks]) (by simp)
  | emit feature level template values =>
    rw [(records_emit logger feature level template values).2] at still ⊢
    exact still unset (by simp [lastAsked_snoc, asks, mode]) (by simp)
  | obstruct text => exact still unset (by simp [lastAsked_snoc, asks, mode, take]) (by simp)

/-- After the start only a switch to the other mode changes anything. -/
theorem Accounts.snoc_started (h : Accounts environment steps logger)
    (started : FirstStart steps earlier verbose later)
    (through : ∀ text, (step.take logger).1.failure ≠ some (.raised text)) :
    Accounts environment (steps ++ [step]) (step.take logger).2 := by
  have production : (step.take logger).2.production = (ofEnvironment environment).production :=
    (production_take logger step).trans h.production
  obtain ⟨mode, inForce⟩ := h.started earlier verbose later started
  have set : logger.isConfigured := by simp [isConfigured, inForce]
  have next := firstStart_snoc started step
  have now (current : (step.take logger).2.verbose = currentMode earlier verbose (later ++ [step]))
      (threshold : (step.take logger).2.threshold = some (step.take logger).2.wanted) :
      Accounts environment (steps ++ [step]) (step.take logger).2 := by
    refine ⟨production, fun fresh => absurd next.mem (fresh verbose), ?_⟩
    intro others option rest other
    obtain ⟨rfl, rfl, rfl⟩ := next.unique other
    exact ⟨current, by rw [threshold, wanted_eq_leastLevel production, current]⟩
  have asked (quiet : step.asks = none) :
      logger.verbose = currentMode earlier verbose (later ++ [step]) := by
    simp [mode, currentMode, lastAsked_snoc, quiet]
  have wanted : logger.threshold = some logger.wanted := by
    rw [inForce, wanted_eq_leastLevel h.production, mode]
  cases step with
  | start option =>
    have took : take logger (.start option) = ({}, logger) := by
      rw [take, show logger.start option = (logger, .nothing) from if_pos set]
      rfl
    rw [took] at now
    rw [took]
    exact now (asked rfl) wanted
  | switch on =>
    have switched : on = currentMode earlier verbose (later ++ [.switch on]) := by
      simp [currentMode, lastAsked_snoc, asks]
    rw [take_switch_started set through] at now ⊢
    by_cases same : on = logger.verbose
    · rw [if_pos same] at now ⊢
      exact now (same ▸ switched) wanted
    · rw [if_neg same] at now ⊢
      exact now switched rfl
  | emit feature level template values =>
    rw [(records_emit logger feature level template values).2] at now ⊢
    exact now (asked rfl) wanted
  | obstruct text => exact now (asked rfl) wanted

/-- Each step that comes through, the first start included, leaves the logger in accordance with the
steps taken. -/
theorem Accounts.snoc (h : Accounts environment steps logger)
    (through : ∀ text, (step.take logger).1.failure ≠ some (.raised text)) :
    Accounts environment (steps ++ [step]) (step.take logger).2 := by
  obtain unstarted | ⟨earlier, verbose, later, started⟩ := firstStart_or_none steps
  · exact h.snoc_unstarted unstarted through
  · exact h.snoc_started started through

theorem Smooth.through {before after : List LoggerStep}
    (h : Smooth environment (before ++ step :: after)) :
    ∀ text, (step.take (reached environment before)).1.failure ≠ some (.raised text) :=
  h _ (List.mem_of_getElem? (getElem?_playLogger environment before step after))

/-- A run without a failing configuration accounts for the logger at every point. -/
theorem Smooth.accounts {before after : List LoggerStep}
    (h : Smooth environment (before ++ after)) :
    Accounts environment before (reached environment before) := by
  induction before using List.reverseRecOn generalizing after with
  | nil => exact accounts_nil environment
  | append_singleton before step ih =>
    rw [List.append_assoc, List.singleton_append] at h
    rw [reached_snoc]
    exact (ih h).snoc h.through

/-! ### What appears -/

theorem beforeStart (unset : logger.threshold = none)
    (through : ∀ text, (step.take logger).1.failure ≠ some (.raised text)) :
    BeforeStart (step.take logger).1 step := by
  have unconfigured : ¬ logger.isConfigured := by simp [isConfigured, unset]
  cases step with
  | start verbose =>
    obtain ⟨announcement, own, took⟩ := take_start_first unset through
    rw [took]
    intro record shown
    obtain ⟨announced, -⟩ := List.mem_filter.mp shown
    obtain ⟨notice, said, rfl⟩ := List.mem_map.mp announced
    rw [own notice (Option.mem_toList.mp said)]
  | switch on =>
    rw [take, switch_early unconfigured]
    rfl
  | emit feature level template values =>
    refine (records_emit logger feature level template values).1.trans ?_
    simp [admits, unset]
  | obstruct text => rfl

theorem inMode (h : logger.verbose = mode)
    (production : logger.production = (ofEnvironment environment).production)
    (inForce : logger.threshold = some (leastLevel environment mode))
    (through : ∀ text, (step.take logger).1.failure ≠ some (.raised text)) :
    InMode environment mode (step.take logger).1 step := by
  have set : logger.isConfigured := by simp [isConfigured, inForce]
  cases step with
  | start verbose =>
    rw [take, show logger.start verbose = (logger, .nothing) from if_pos set]
    rfl
  | switch on =>
    rw [take_switch_started set through, h]
    by_cases same : on = mode
    · simp only [InMode, if_pos same]
    · have least : wanted { logger with verbose := on } = leastLevel environment on :=
        wanted_eq_leastLevel production
      simp only [InMode, if_neg same, endStep, settle, least, admits]
      rfl
  | emit feature level template values =>
    refine (records_emit logger feature level template values).1.trans ?_
    rw [admits_of_threshold inForce]
  | obstruct text => rfl

/-- Where no configuration fails: before the first start nothing that is written or switched
appears. From then on the current mode is the one asked for last since that start, or else the one
it was given, or the one asked for last before it, or the usual one. A record appears exactly if its
level is not below the threshold of the current mode: debug in verbose mode, else error in
production and info anywhere else. A switch to the other mode says so, as far as its threshold lets
it, and no other step does. Starting again says nothing and changes nothing. -/
theorem records_follow_mode (environment : Option String) (before : List LoggerStep)
    (step : LoggerStep) (after : List LoggerStep)
    (smooth : Smooth environment (before ++ step :: after)) :
    ∃ view, (playLogger (ofEnvironment environment) (before ++ step :: after))[before.length]? =
        some view ∧
      ((∀ option, .start option ∉ before) → BeforeStart view step) ∧
      (∀ earlier verbose later, FirstStart before earlier verbose later →
        InMode environment (currentMode earlier verbose later) view step ∧
          ∀ option, step = .start option →
            reached environment (before ++ [step]) = reached environment before) := by
  have accounts := smooth.accounts
  have through := smooth.through
  refine ⟨_, getElem?_playLogger environment before step after, ?_, ?_⟩
  · intro unstarted
    exact beforeStart (accounts.unset unstarted).1 through
  · intro earlier verbose later started
    obtain ⟨mode, inForce⟩ := accounts.started earlier verbose later started
    refine ⟨inMode mode accounts.production inForce through, ?_⟩
    rintro option rfl
    have set : (reached environment before).isConfigured := by simp [isConfigured, inForce]
    rw [reached_snoc, take, show Logger.start _ option = (_, .nothing) from if_pos set]
    rfl

/-- In production: a switch ahead of the start, which has no option, and a record in between. -/
def rehearsal : List LoggerStep :=
  [.switch true, .emit "keys" .fatal "Early" [], .start none, .start (some false)]

/-- The record is heard, as verbose mode was asked for before the start. -/
theorem rehearsal_heard :
    Smooth (some "production") (rehearsal ++ .emit "keys" .debug "Armed" [] :: [.switch false]) ∧
      ∃ view, (playLogger (ofEnvironment (some "production"))
        (rehearsal ++ .emit "keys" .debug "Armed" [] :: [.switch false]))[4]? = some view ∧
          view.records = [⟨.debug, "keys", "Armed"⟩] := by
  have smooth : Smooth (some "production")
      (rehearsal ++ .emit "keys" .debug "Armed" [] :: [.switch false]) := by
    have fine : ∀ view ∈ playLogger (ofEnvironment (some "production"))
        (rehearsal ++ .emit "keys" .debug "Armed" [] :: [.switch false]), view.failure = none := by
      decide +kernel
    intro view shown text failed
    rw [fine view shown] at failed
    cases failed
  have started : FirstStart rehearsal [.switch true, .emit "keys" .fatal "Early" []] none
      [.start (some false)] := ⟨rfl, by simp⟩
  obtain ⟨view, shown, -, mode⟩ := records_follow_mode _ rehearsal _ _ smooth
  exact ⟨smooth, view, shown, (mode _ _ _ started).1.trans (by decide +kernel)⟩

end LoggerStep
end KeyPrecedence.Script
