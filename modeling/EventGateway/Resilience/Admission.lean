import EventGateway.Resilience.CircuitBreaker

/-! Which calls the circuit breaker lets through: none before the timeout, a bounded
number in each half-open phase, and a way back to Closed only through a full phase of
successes. -/

namespace EventGateway.Resilience
open Lib

def lastFailure (log : List Entry) : Option Time :=
  log.findSome? (fun
    | .ran true _ stop => some stop
    | _ => none)

def phaseRuns : List Entry → Option Nat
  | [] => none
  | .entered .stateHalfOpen :: _ => some 0
  | .entered _ :: _ => none
  | .reset _ :: _ => none
  | .ran _ _ _ :: log => (phaseRuns log).map (· + 1)
  | .rejected _ :: log => phaseRuns log

/-- The runs are successes, and the first of them began no earlier than the timeout after the last
failure before them. -/
structure Probes (settings : Settings) (before runs : List Entry) : Prop where
  succeeded : ∀ run ∈ runs, run.success
  rested : ∀ failed start stop, runs.getLast? = some (.ran failed start stop) →
    ∃ time, lastFailure before = some time ∧ time + settings.resetTimeout.toInt ≤ start

/-- The log got from `origin` to Closed through one half-open phase of exactly as many successes as
are asked for. -/
def Recovered (settings : Settings) (origin log : List Entry) : Prop :=
  ∃ rest runs before, log = rest ++ .entered .stateClosed :: (runs ++ .entered .stateHalfOpen :: before) ∧
    origin <:+ before ∧ (runs.length : Int) = settings.halfOpenMaxCalls.toInt ∧ Probes settings before runs

section Rest
variable {config : Config} {opened later : History} {time : Time}

structure Resting (settings : Settings) (time : Time) (history : History) : Prop where
  config : history.breaker.config = settings
  waiting : history.clock < time + settings.resetTimeout.toInt →
    history.breaker.state = .stateOpen ∧ history.breaker.lastFailureTime = time

theorem timeout_pos (settings : Settings) : 0 < settings.resetTimeout.toInt := by
  simpa [Int64.lt_iff_toInt_lt] using settings.resetTimeout_pos

theorem Resting.execute {settings : Settings} {history : History} (resting : Resting settings time history)
    (fails : Bool) {start : Time} (stop : Time) (order : history.clock ≤ start)
    (early : start < time + settings.resetTimeout.toInt) :
    history.breaker.execute (.returned fails) start stop = ⟨history.breaker, .circuitOpen, [.rejected start], []⟩ := by
  obtain ⟨isOpen, last⟩ := resting.waiting (order.trans_lt early)
  have positive := timeout_pos settings
  have short : ¬history.breaker.config.resetTimeout ≤ since start history.breaker.lastFailureTime := by
    rw [resting.config, last, le_since positive.le]
    lia
  simp only [CircuitBreaker.execute, isOpen, CircuitBreaker.executeOpen, if_neg short]

end Rest

section Phases
variable {cb base : CircuitBreaker} {log entry : List Entry} {launched : List Notification} {start stop : Time}
  {fails : Bool} {execution : Execution} {bound : Int}

def PhasesWithin (bound : Int) (log : List Entry) : Prop :=
  ∀ moment, moment <:+ log → ∀ runs, phaseRuns moment = some runs → (runs : Int) ≤ bound

theorem PhasesWithin.cons {newest : Entry} (within : PhasesWithin bound log)
    (now : ∀ runs, phaseRuns (newest :: log) = some runs → (runs : Int) ≤ bound) :
    PhasesWithin bound (newest :: log) := by
  intro moment suffix runs counted
  rcases List.suffix_cons_iff.mp suffix with rfl | earlier
  · exact now runs counted
  · exact within moment earlier runs counted

/-- Between calls: the phases so far are bounded, and a phase is under way exactly in the half-open
state, with `successCount` functions run. -/
structure Phased (cb : CircuitBreaker) (log : List Entry) : Prop where
  within : PhasesWithin cb.config.halfOpenMaxCalls.toInt log
  current : phaseRuns log = if cb.state = .stateHalfOpen then some cb.successCount else none

theorem Phased.ready (phased : Phased cb log) (ready : cb.Ready start base entry launched) :
    Phased base (entry ++ log) := by
  cases ready with
  | already halfOpen => exact phased
  | waited isOpen =>
    have positive := maxCalls_pos cb.config
    refine ⟨phased.within.cons (fun runs counted => ?_), rfl⟩
    cases counted
    exact positive.le

theorem Phased.ran (phased : Phased cb log) (halfOpen : cb.state = .stateHalfOpen)
    (below : (cb.successCount : Int) < cb.config.halfOpenMaxCalls.toInt) (failed : Bool) (start stop : Time) :
    PhasesWithin cb.config.halfOpenMaxCalls.toInt (.ran failed start stop :: log) ∧
      phaseRuns (.ran failed start stop :: log) = some (cb.successCount + 1) := by
  have current : phaseRuns (.ran failed start stop :: log) = some (cb.successCount + 1) := by
    simp only [phaseRuns, phased.current, halfOpen, if_true, Option.map_some]
  refine ⟨phased.within.cons (fun runs counted => ?_), current⟩
  cases current.symm.trans counted
  omega

theorem Phased.outside (phased : Phased cb log) (closed : cb.state = .stateClosed) (failed : Bool)
    (start stop : Time) :
    PhasesWithin cb.config.halfOpenMaxCalls.toInt (.ran failed start stop :: log) ∧
      phaseRuns (.ran failed start stop :: log) = none := by
  have current : phaseRuns (.ran failed start stop :: log) = none := by
    simp only [phaseRuns, phased.current, closed, reduceCtorEq, if_false, Option.map_none]
  refine ⟨phased.within.cons (fun runs counted => ?_), current⟩
  cases current.symm.trans counted

theorem Counted.room (counted : Counted cb log) (ready : cb.Ready start base entry launched) :
    (base.successCount : Int) < base.config.halfOpenMaxCalls.toInt := by
  cases ready with
  | already halfOpen => exact (counted.halfOpen halfOpen).2.2
  | waited => exact maxCalls_pos cb.config

theorem Phased.execute (phased : Phased cb log) (counted : Counted cb log)
    (outcome : cb.Outcome start stop fails execution) :
    Phased execution.breaker (execution.trace ++ log) := by
  cases outcome with
  | success closed =>
    obtain ⟨within, none⟩ := phased.outside closed false start stop
    exact ⟨within, by simpa [closed] using none⟩
  | failure closed =>
    obtain ⟨within, none⟩ := phased.outside closed true start stop
    exact ⟨within, by simpa [closed] using none⟩
  | trip closed => exact ⟨(phased.outside closed true start stop).1.cons nofun, rfl⟩
  | rejected _ isOpen =>
    have none : phaseRuns log = none := by simpa [isOpen] using phased.current
    refine ⟨phased.within.cons (fun runs some => ?_), phased.current⟩
    cases none.symm.trans some
  | relapse base entry launched ready =>
    have within := ((phased.ready ready).ran ready.halfOpen (counted.room ready) true start stop).1
    exact ⟨within.cons nofun, rfl⟩
  | probe base entry launched ready below =>
    obtain ⟨within, current⟩ := (phased.ready ready).ran ready.halfOpen (counted.room ready) false start stop
    exact ⟨within, by simpa [ready.halfOpen] using current⟩
  | recovery base entry launched ready =>
    have within := ((phased.ready ready).ran ready.halfOpen (counted.room ready) false start stop).1
    exact ⟨within.cons nofun, rfl⟩

end Phases

section Return
variable {settings : Settings} {origin log entry runs before : List Entry} {cb base : CircuitBreaker}
  {launched : List Notification} {start stop : Time} {fails : Bool} {execution : Execution}

theorem Probes.single (rested : ∃ time, lastFailure before = some time ∧
    time + settings.resetTimeout.toInt ≤ start) : Probes settings before [.ran false start stop] := by
  constructor
  · intro run member
    cases List.mem_singleton.mp member
    rfl
  · intro failed start' stop' last
    cases last
    exact rested

theorem Probes.cons (probes : Probes settings before runs) (some : runs ≠ []) :
    Probes settings before (.ran false start stop :: runs) := by
  constructor
  · intro run member
    rcases List.mem_cons.mp member with rfl | old
    · rfl
    · exact probes.succeeded run old
  · intro failed start' stop' last
    rw [List.getLast?_cons_of_ne_nil some] at last
    exact probes.rested failed start' stop' last

def FailureNoted (cb : CircuitBreaker) (log : List Entry) : Prop :=
  cb.state = .stateOpen → lastFailure log = some cb.lastFailureTime

theorem FailureNoted.execute (noted : FailureNoted cb log) (outcome : cb.Outcome start stop fails execution) :
    FailureNoted execution.breaker (execution.trace ++ log) := by
  intro isOpen
  cases outcome with
  | success closed | failure closed => cases closed.symm.trans isOpen
  | trip | relapse => rfl
  | rejected => exact noted isOpen
  | probe base entry launched ready => cases ready.halfOpen.symm.trans isOpen
  | recovery => cases isOpen

/-- How far the log has come on its way from `origin` to Closed. -/
structure Returning (settings : Settings) (origin : List Entry) (cb : CircuitBreaker) (log : List Entry) : Prop where
  config : cb.config = settings
  noted : FailureNoted cb log
  kept : origin <:+ log
  probing : cb.state = .stateHalfOpen → ∃ runs before, log = runs ++ .entered .stateHalfOpen :: before ∧
    origin <:+ before ∧ runs.length = cb.successCount ∧ runs ≠ [] ∧ Probes settings before runs
  recovered : cb.state = .stateClosed → Recovered settings origin log

/-- A probe that is let through and succeeds belongs to a phase that began after `origin`. -/
theorem Returning.ready (returning : Returning settings origin cb log) (ready : cb.Ready start base entry launched)
    (stop : Time) : ∃ runs before, entry ++ log = runs ++ .entered .stateHalfOpen :: before ∧
      origin <:+ before ∧ runs.length = base.successCount ∧
      Probes settings before (.ran false start stop :: runs) := by
  cases ready with
  | already halfOpen =>
    obtain ⟨runs, before, same, kept, length, some, probes⟩ := returning.probing halfOpen
    exact ⟨runs, before, same, kept, length, probes.cons some⟩
  | waited isOpen elapsed =>
    rw [le_since (timeout_pos _).le, returning.config] at elapsed
    refine ⟨[], log, rfl, returning.kept, rfl, Probes.single ⟨_, returning.noted isOpen, ?_⟩⟩
    lia

theorem Recovered.cons {newest : Entry} (recovered : Recovered settings origin log) :
    Recovered settings origin (newest :: log) := by
  obtain ⟨rest, runs, before, rfl, kept, full, probes⟩ := recovered
  exact ⟨newest :: rest, runs, before, rfl, kept, full, probes⟩

theorem Returning.execute (returning : Returning settings origin cb log) (counted : Counted cb log)
    (outcome : cb.Outcome start stop fails execution) :
    Returning settings origin execution.breaker (execution.trace ++ log) := by
  have same := (outcome_config outcome).trans returning.config
  have kept : origin <:+ execution.trace ++ log := returning.kept.trans (List.suffix_append _ _)
  have noted := returning.noted.execute outcome
  cases outcome with
  | success closed | failure closed =>
    refine ⟨same, noted, kept, fun halfOpen => ?_, fun _ => (returning.recovered closed).cons⟩
    cases closed.symm.trans halfOpen
  | trip | relapse => exact ⟨same, noted, kept, nofun, nofun⟩
  | rejected _ isOpen =>
    refine ⟨same, noted, kept, fun halfOpen => ?_, fun closed => ?_⟩
    · cases isOpen.symm.trans halfOpen
    · cases isOpen.symm.trans closed
  | probe base entry launched ready below =>
    obtain ⟨runs, before, split, later, length, probes⟩ := returning.ready ready stop
    refine ⟨same, noted, kept, fun _ => ?_, fun closed => ?_⟩
    · refine ⟨.ran false start stop :: runs, before, ?_, later, by simp [length], by simp, probes⟩
      rw [List.cons_append, List.cons_append, split]
    · cases ready.halfOpen.symm.trans closed
  | recovery base entry launched ready reached =>
    obtain ⟨runs, before, split, later, length, probes⟩ := returning.ready ready stop
    refine ⟨same, noted, kept, nofun, fun _ => ?_⟩
    refine ⟨[], .ran false start stop :: runs, before, ?_, later, ?_, probes⟩
    · rw [List.cons_append, List.cons_append, split]
      rfl
    · have room := counted.room ready
      rw [← same, List.length_cons, length]
      simp only at reached ⊢
      omega

end Return

structure Orderly (settings : Settings) (history : History) : Prop where
  config : history.breaker.config = settings
  counted : Counted history.breaker history.log
  phased : Phased history.breaker history.log
  noted : FailureNoted history.breaker history.log

theorem orderly_of_reachable {config : Config} {history : History}
    (reached : (breakerMachine config).Reachable history) : Orderly config.settings history := by
  apply reached.invariant (Orderly config.settings)
  · intro history initial
    obtain ⟨settings, counted⟩ := counted_of_reachable (.start initial)
    refine ⟨settings, counted, ?_, ?_⟩
    · rw [initial.1, initial.2]
      refine ⟨fun moment suffix runs counts => ?_, rfl⟩
      rw [List.suffix_nil.mp suffix] at counts
      cases counts
    · rw [initial.1]
      exact nofun
  · intro history call after _ orderly _ stepped
    cases History.step_cases stepped with
    | execute fails start stop execution _ _ _ outcome =>
      exact ⟨(outcome_config outcome).trans orderly.config, orderly.counted.execute outcome,
        orderly.phased.execute orderly.counted outcome, orderly.noted.execute outcome⟩
    | reset now =>
      exact ⟨orderly.config, Counted.reset now, ⟨orderly.phased.within.cons nofun, rfl⟩, nofun⟩

end EventGateway.Resilience
