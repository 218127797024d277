import EventGateway.Domain.Clock
import EventGateway.Lib.Machine
import EventGateway.Lib.Recent

/-! The circuit breaker of `pkg/circuitbreaker`. `Execute` holds the mutex while the
function runs, so a whole call is one step. A call reports what the outside can see of
it: the function being run, and the transitions that the callback is told of. -/

namespace EventGateway.Resilience
open Lib

inductive BreakerState where
  | stateClosed
  | stateOpen
  | stateHalfOpen
  deriving DecidableEq

structure Config where
  failureThreshold : Int64
  resetTimeout : Duration
  halfOpenMaxCalls : Int64

structure Settings extends Config where
  failureThreshold_pos : 0 < failureThreshold
  resetTimeout_pos : 0 < resetTimeout
  halfOpenMaxCalls_pos : 0 < halfOpenMaxCalls

def positiveOr (value default : Int64) : Int64 := if value ≤ 0 then default else value

theorem positiveOr_pos (value : Int64) {default : Int64} (positive : 0 < default) :
    0 < positiveOr value default := by
  unfold positiveOr
  split
  next => exact positive
  next above =>
    rw [Int64.le_iff_toInt_le] at above
    rw [Int64.lt_iff_toInt_lt]
    omega

def Config.settings (config : Config) : Settings where
  failureThreshold := positiveOr config.failureThreshold 5
  resetTimeout := positiveOr config.resetTimeout (60 * 1000000000)
  halfOpenMaxCalls := positiveOr config.halfOpenMaxCalls 1
  failureThreshold_pos := positiveOr_pos _ (by decide)
  resetTimeout_pos := positiveOr_pos _ (by decide)
  halfOpenMaxCalls_pos := positiveOr_pos _ (by decide)

structure CircuitBreaker where
  state : BreakerState
  consecutiveFailures : Nat
  lastFailureTime : Time
  successCount : Nat
  config : Settings

/-- What can be seen of a breaker: a function that ran from start to stop, a call that was
turned away, a change of state and a `Reset`. -/
inductive Entry where
  | ran (failed : Bool) (start stop : Time)
  | rejected (time : Time)
  | entered (state : BreakerState)
  | reset (time : Time)
  deriving DecidableEq

/-- What `Execute` returns: the result of the function, or `ErrCircuitOpen`; a panic goes on to the caller. -/
inductive CallResult where
  | returned (failed : Bool)
  | circuitOpen
  | panicked
  deriving DecidableEq

/-- What becomes of the function that is executed. -/
inductive FnOutcome where
  | returned (failed : Bool)
  | panicked
  deriving DecidableEq

/-- A launched callback: its two arguments, and whether it was `Reset` that launched it. -/
structure Notification where
  old : BreakerState
  new : BreakerState
  byReset : Bool
  deriving DecidableEq

structure Execution where
  breaker : CircuitBreaker
  result : CallResult
  trace : List Entry
  launched : List Notification

namespace CircuitBreaker

def new (config : Config) (now : Time) : CircuitBreaker where
  state := .stateClosed
  consecutiveFailures := 0
  lastFailureTime := now
  successCount := 0
  config := config.settings

def changeState (cb : CircuitBreaker) (newState : BreakerState) : CircuitBreaker × Notification :=
  ({ cb with state := newState }, ⟨cb.state, newState, false⟩)

def executeClosed (cb : CircuitBreaker) (outcome : FnOutcome) (start stop : Time) : Execution :=
  match outcome with
  | .panicked => ⟨cb, .panicked, [], []⟩
  | .returned true =>
    let cb := { cb with consecutiveFailures := cb.consecutiveFailures + 1, lastFailureTime := stop }
    if cb.config.failureThreshold.toInt ≤ cb.consecutiveFailures then
      let (cb, notification) := cb.changeState .stateOpen
      ⟨cb, .returned true, [.entered .stateOpen, .ran true start stop], [notification]⟩
    else ⟨cb, .returned true, [.ran true start stop], []⟩
  | .returned false => ⟨{ cb with consecutiveFailures := 0 }, .returned false, [.ran false start stop], []⟩

def executeHalfOpen (cb : CircuitBreaker) (outcome : FnOutcome) (start stop : Time) : Execution :=
  match outcome with
  | .panicked => ⟨cb, .panicked, [], []⟩
  | .returned true =>
    let (cb, notification) := cb.changeState .stateOpen
    let cb := { cb with lastFailureTime := stop, consecutiveFailures := 1, successCount := 0 }
    ⟨cb, .returned true, [.entered .stateOpen, .ran true start stop], [notification]⟩
  | .returned false =>
    let cb := { cb with successCount := cb.successCount + 1 }
    if cb.config.halfOpenMaxCalls.toInt ≤ cb.successCount then
      let (cb, notification) := cb.changeState .stateClosed
      let cb := { cb with consecutiveFailures := 0, successCount := 0 }
      ⟨cb, .returned false, [.entered .stateClosed, .ran false start stop], [notification]⟩
    else ⟨cb, .returned false, [.ran false start stop], []⟩

def executeOpen (cb : CircuitBreaker) (outcome : FnOutcome) (start stop : Time) : Execution :=
  if cb.config.resetTimeout ≤ since start cb.lastFailureTime then
    let (cb, notification) := cb.changeState .stateHalfOpen
    let execution := executeHalfOpen { cb with successCount := 0 } outcome start stop
    { execution with
      trace := execution.trace ++ [.entered .stateHalfOpen], launched := notification :: execution.launched }
  else ⟨cb, .circuitOpen, [.rejected start], []⟩

def execute (cb : CircuitBreaker) (outcome : FnOutcome) (start stop : Time) : Execution :=
  match cb.state with
  | .stateClosed => cb.executeClosed outcome start stop
  | .stateOpen => cb.executeOpen outcome start stop
  | .stateHalfOpen => cb.executeHalfOpen outcome start stop

def reset (cb : CircuitBreaker) (now : Time) : CircuitBreaker :=
  { cb with state := .stateClosed, consecutiveFailures := 0, successCount := 0, lastFailureTime := now }

end CircuitBreaker

structure History where
  breaker : CircuitBreaker
  log : List Entry
  clock : Time

inductive BreakerCall where
  | execute (fails : Bool) (start stop : Time)
  | reset (now : Time)
  deriving DecidableEq

def History.step (history : History) : BreakerCall → Option History
  | .execute fails start stop =>
      if history.clock ≤ start ∧ start ≤ stop then
        let execution := history.breaker.execute (.returned fails) start stop
        some { breaker := execution.breaker, log := execution.trace ++ history.log, clock := stop }
      else none
  | .reset now =>
      if history.clock ≤ now then
        some { breaker := history.breaker.reset now, log := .reset now :: history.log, clock := now }
      else none

def breakerMachine (config : Config) : Machine History BreakerCall where
  init := fun history => history.breaker = .new config history.clock ∧ history.log = []
  step := History.step

namespace CircuitBreaker

/-- A breaker that lets a call through as a probe: it is half-open, or it was open for long
enough and becomes half-open for this call. -/
inductive Ready (cb : CircuitBreaker) (start : Time) : CircuitBreaker → List Entry →
    List Notification → Prop where
  | already (halfOpen : cb.state = .stateHalfOpen) : Ready cb start cb [] []
  | waited (isOpen : cb.state = .stateOpen) (elapsed : cb.config.resetTimeout ≤ since start cb.lastFailureTime) :
      Ready cb start { cb with state := .stateHalfOpen, successCount := 0 } [.entered .stateHalfOpen]
        [⟨cb.state, .stateHalfOpen, false⟩]

theorem Ready.halfOpen {cb base : CircuitBreaker} {start : Time} {entry : List Entry} {launched : List Notification}
    (ready : cb.Ready start base entry launched) : base.state = .stateHalfOpen := by
  cases ready with
  | already halfOpen => exact halfOpen
  | waited => rfl

inductive Outcome (cb : CircuitBreaker) (start stop : Time) : Bool → Execution → Prop where
  | success (closed : cb.state = .stateClosed) :
      Outcome cb start stop false
        ⟨{ cb with consecutiveFailures := 0 }, .returned false, [.ran false start stop], []⟩
  | failure (closed : cb.state = .stateClosed)
      (below : ((cb.consecutiveFailures + 1 : Nat) : Int) < cb.config.failureThreshold.toInt) :
      Outcome cb start stop true
        ⟨{ cb with consecutiveFailures := cb.consecutiveFailures + 1, lastFailureTime := stop }, .returned true,
          [.ran true start stop], []⟩
  | trip (closed : cb.state = .stateClosed)
      (reached : cb.config.failureThreshold.toInt ≤ ((cb.consecutiveFailures + 1 : Nat) : Int)) :
      Outcome cb start stop true
        ⟨{ cb with
            state := .stateOpen, consecutiveFailures := cb.consecutiveFailures + 1, lastFailureTime := stop },
          .returned true, [.entered .stateOpen, .ran true start stop], [⟨cb.state, .stateOpen, false⟩]⟩
  | rejected (fails : Bool) (isOpen : cb.state = .stateOpen)
      (early : ¬cb.config.resetTimeout ≤ since start cb.lastFailureTime) :
      Outcome cb start stop fails ⟨cb, .circuitOpen, [.rejected start], []⟩
  | relapse (base : CircuitBreaker) (entry : List Entry) (launched : List Notification)
      (ready : cb.Ready start base entry launched) :
      Outcome cb start stop true
        ⟨{ base with
            state := .stateOpen, lastFailureTime := stop, consecutiveFailures := 1, successCount := 0 },
          .returned true, .entered .stateOpen :: .ran true start stop :: entry,
          launched ++ [⟨base.state, .stateOpen, false⟩]⟩
  | probe (base : CircuitBreaker) (entry : List Entry) (launched : List Notification)
      (ready : cb.Ready start base entry launched)
      (below : ((base.successCount + 1 : Nat) : Int) < base.config.halfOpenMaxCalls.toInt) :
      Outcome cb start stop false
        ⟨{ base with successCount := base.successCount + 1 }, .returned false, .ran false start stop :: entry,
          launched⟩
  | recovery (base : CircuitBreaker) (entry : List Entry) (launched : List Notification)
      (ready : cb.Ready start base entry launched)
      (reached : base.config.halfOpenMaxCalls.toInt ≤ ((base.successCount + 1 : Nat) : Int)) :
      Outcome cb start stop false
        ⟨{ base with state := .stateClosed, consecutiveFailures := 0, successCount := 0 },
          .returned false, .entered .stateClosed :: .ran false start stop :: entry,
          launched ++ [⟨base.state, .stateClosed, false⟩]⟩

theorem executeHalfOpen_cases {cb base : CircuitBreaker} {start : Time} {entry : List Entry}
    {launched : List Notification} (ready : cb.Ready start base entry launched) (fails : Bool) (stop : Time) :
    let execution := base.executeHalfOpen (.returned fails) start stop
    Outcome cb start stop fails { execution with
      trace := execution.trace ++ entry, launched := launched ++ execution.launched } := by
  cases fails with
  | true => exact .relapse base entry launched ready
  | false =>
    simp only [executeHalfOpen]
    split
    next reached => exact .recovery base entry launched ready reached
    next below =>
      rw [List.append_nil]
      exact .probe base entry launched ready (not_le.mp below)

theorem execute_cases (cb : CircuitBreaker) (fails : Bool) (start stop : Time) :
    Outcome cb start stop fails (cb.execute (.returned fails) start stop) := by
  unfold execute
  split
  next closed =>
    cases fails with
    | false => exact .success closed
    | true =>
      simp only [executeClosed]
      split
      next reached => exact .trip closed reached
      next below => exact .failure closed (not_le.mp below)
  next isOpen =>
    unfold executeOpen
    split
    next elapsed => exact executeHalfOpen_cases (.waited isOpen elapsed) fails stop
    next early => exact .rejected fails isOpen early
  next halfOpen =>
    have ready : cb.Ready start cb [] [] := .already halfOpen
    have outcome := executeHalfOpen_cases ready fails stop
    simpa only [List.append_nil, List.nil_append] using outcome

end CircuitBreaker

inductive HistoryMove (history : History) : BreakerCall → History → Prop where
  | execute (fails : Bool) (start stop : Time) (execution : Execution) (later : history.clock ≤ start)
      (lasts : start ≤ stop) (same : execution = history.breaker.execute (.returned fails) start stop)
      (outcome : history.breaker.Outcome start stop fails execution) :
      HistoryMove history (.execute fails start stop)
        { breaker := execution.breaker, log := execution.trace ++ history.log, clock := stop }
  | reset (now : Time) (later : history.clock ≤ now) :
      HistoryMove history (.reset now)
        { breaker := history.breaker.reset now, log := .reset now :: history.log, clock := now }

theorem History.step_cases {history after : History} {call : BreakerCall}
    (stepped : history.step call = some after) : HistoryMove history call after := by
  cases call with
  | execute fails start stop =>
    simp only [History.step] at stepped
    split at stepped
    next order =>
      cases stepped
      exact .execute fails start stop _ order.1 order.2 rfl (history.breaker.execute_cases fails start stop)
    next => cases stepped
  | reset now =>
    simp only [History.step] at stepped
    split at stepped
    next later =>
      cases stepped
      exact .reset now later
    next => cases stepped

namespace Entry

def failure : Entry → Bool
  | .ran true _ _ => true
  | _ => false

def success : Entry → Bool
  | .ran false _ _ => true
  | _ => false

/-- A successful execution, a `Reset` or an entry into Closed. -/
def endsStreak : Entry → Bool
  | .ran false _ _ => true
  | .reset _ => true
  | .entered .stateClosed => true
  | _ => false

def startsProbing : Entry → Bool
  | .entered .stateHalfOpen => true
  | _ => false

end Entry

/-- The failed executions since the latest of the last success, the last `Reset` and the last
entry into Closed. -/
def failures (log : List Entry) : Nat := countSince Entry.endsStreak Entry.failure log

def successes (log : List Entry) : Nat := countSince Entry.startsProbing Entry.success log

structure Counted (cb : CircuitBreaker) (log : List Entry) : Prop where
  closed : cb.state = .stateClosed → cb.consecutiveFailures = failures log ∧
    (cb.consecutiveFailures : Int) < cb.config.failureThreshold.toInt ∧ cb.successCount = 0
  halfOpen : cb.state = .stateHalfOpen → cb.successCount = successes log ∧
    1 ≤ cb.successCount ∧ (cb.successCount : Int) < cb.config.halfOpenMaxCalls.toInt

section Opening
variable {cb base : CircuitBreaker} {log entry : List Entry} {launched : List Notification} {start stop : Time}
  {fails : Bool}

theorem failures_ran (log : List Entry) : failures (.ran true start stop :: log) = failures log + 1 :=
  countSince_counted rfl rfl log

theorem failures_opened (log : List Entry) : failures (.entered .stateOpen :: log) = failures log :=
  countSince_other rfl rfl log

theorem failures_ended {ending : Entry} (ends : ending.endsStreak) (log : List Entry) :
    failures (ending :: log) = 0 :=
  countSince_boundary _ ends log

theorem successes_ran (log : List Entry) : successes (.ran false start stop :: log) = successes log + 1 :=
  countSince_counted rfl rfl log

theorem threshold_pos (settings : Settings) : 0 < settings.failureThreshold.toInt := by
  simpa [Int64.lt_iff_toInt_lt] using settings.failureThreshold_pos

theorem maxCalls_pos (settings : Settings) : 0 < settings.halfOpenMaxCalls.toInt := by
  simpa [Int64.lt_iff_toInt_lt] using settings.halfOpenMaxCalls_pos

/-- When a probe is let through, the counter has the earlier ones of the same phase. -/
theorem Counted.ready (counted : Counted cb log) (ready : cb.Ready start base entry launched) :
    base.successCount = successes (entry ++ log) := by
  cases ready with
  | already halfOpen => exact (counted.halfOpen halfOpen).1
  | waited => exact (countSince_boundary _ rfl log).symm

theorem Counted.execute {execution : Execution} (counted : Counted cb log)
    (outcome : cb.Outcome start stop fails execution) :
    Counted execution.breaker (execution.trace ++ log) := by
  have positive := threshold_pos cb.config
  cases outcome with
  | success closed =>
    obtain ⟨-, -, none⟩ := counted.closed closed
    refine ⟨fun _ => ⟨(failures_ended rfl log).symm, by simpa using positive, none⟩, fun halfOpen => ?_⟩
    cases closed.symm.trans halfOpen
  | failure closed below =>
    obtain ⟨same, -, none⟩ := counted.closed closed
    refine ⟨fun _ => ⟨?_, below, none⟩, fun halfOpen => ?_⟩
    · exact (congrArg (· + 1) same).trans (failures_ran log).symm
    · cases closed.symm.trans halfOpen
  | trip => exact ⟨nofun, nofun⟩
  | rejected fails isOpen =>
    refine ⟨fun closed => ?_, fun halfOpen => ?_⟩
    · cases isOpen.symm.trans closed
    · cases isOpen.symm.trans halfOpen
  | relapse => exact ⟨nofun, nofun⟩
  | probe base entry launched ready below =>
    refine ⟨fun closed => ?_, fun _ => ⟨?_, by simp, below⟩⟩
    · cases ready.halfOpen.symm.trans closed
    · exact (congrArg (· + 1) (counted.ready ready)).trans (successes_ran _).symm
  | recovery base entry launched ready =>
    have positive := threshold_pos base.config
    exact ⟨fun _ => ⟨(failures_ended rfl _).symm, positive, rfl⟩, nofun⟩

theorem outcome_config {execution : Execution} (outcome : cb.Outcome start stop fails execution) :
    execution.breaker.config = cb.config := by
  cases outcome with
  | success | failure | trip | rejected => rfl
  | relapse base entry launched ready | probe base entry launched ready | recovery base entry launched ready =>
    cases ready <;> rfl

/-- A closed breaker opens with the failure that completes the threshold, and with no other call. -/
theorem Counted.opens_iff {execution : Execution} (counted : Counted cb log) (closed : cb.state = .stateClosed)
    (outcome : cb.Outcome start stop fails execution) :
    execution.breaker.state = .stateOpen ↔
      (failures (execution.trace ++ log) : Int) = cb.config.failureThreshold.toInt := by
  have positive := threshold_pos cb.config
  obtain ⟨same, below, -⟩ := counted.closed closed
  cases outcome with
  | success =>
    have none : failures (.ran false start stop :: log) = 0 := failures_ended rfl log
    simp only [List.cons_append, List.nil_append, none, closed, reduceCtorEq, false_iff]
    omega
  | failure _ under =>
    simp only [List.cons_append, List.nil_append, failures_ran, ← same, closed, reduceCtorEq, false_iff]
    omega
  | trip _ reached =>
    simp only [List.cons_append, List.nil_append, failures_opened, failures_ran, ← same, true_iff]
    omega
  | rejected _ isOpen => cases closed.symm.trans isOpen
  | relapse base entry launched ready | probe base entry launched ready | recovery base entry launched ready =>
    cases ready with
    | already halfOpen => cases closed.symm.trans halfOpen
    | waited isOpen => cases closed.symm.trans isOpen

theorem Counted.reset (now : Time) : Counted (cb.reset now) (.reset now :: log) where
  closed := fun _ => ⟨(failures_ended rfl log).symm, threshold_pos cb.config, rfl⟩
  halfOpen := nofun

end Opening

theorem counted_of_reachable {config : Config} {history : History}
    (reached : (breakerMachine config).Reachable history) :
    history.breaker.config = config.settings ∧ Counted history.breaker history.log := by
  apply reached.invariant (fun history => history.breaker.config = config.settings ∧
    Counted history.breaker history.log)
  · intro history ⟨new, empty⟩
    rw [new, empty]
    exact ⟨rfl, fun _ => ⟨rfl, threshold_pos _, rfl⟩, nofun⟩
  · intro history call after _ sound _ stepped
    cases History.step_cases stepped with
    | execute fails start stop execution _ _ _ outcome =>
      exact ⟨(outcome_config outcome).trans sound.1, sound.2.execute outcome⟩
    | reset now => exact ⟨sound.1, Counted.reset now⟩

/-- In every reachable state the counters are what the log says and stay below their limits, and a
closed breaker opens exactly on the call that brings the failures to the threshold. -/
theorem opening_law (config : Config) {history : History} (reached : (breakerMachine config).Reachable history) :
    history.breaker.config = config.settings ∧ Counted history.breaker history.log ∧
      ∀ call after, history.step call = some after → history.breaker.state = .stateClosed →
        (after.breaker.state = .stateOpen ↔
          (failures after.log : Int) = config.settings.failureThreshold.toInt) := by
  obtain ⟨settings, counted⟩ := counted_of_reachable reached
  refine ⟨settings, counted, fun call after stepped closed => ?_⟩
  cases History.step_cases stepped with
  | execute fails start stop execution _ _ _ outcome =>
    rw [← settings]
    exact counted.opens_iff closed outcome
  | reset now =>
    have positive := threshold_pos config.settings
    have none : failures (.reset now :: history.log) = 0 := failures_ended rfl _
    simp [none, CircuitBreaker.reset, positive.ne]

def smallConfig : Config where
  failureThreshold := 2
  resetTimeout := 10
  halfOpenMaxCalls := 2

theorem opening_law_probing : ∃ history, (breakerMachine smallConfig).Reachable history ∧
    history.breaker.state = .stateHalfOpen ∧ successes history.log = 1 := by
  obtain ⟨history, reached, outcome⟩ := (breakerMachine smallConfig).reaches_of_run (fun _ _ => True)
    ⟨.new smallConfig 0, [], 0⟩ [.execute true 1 2, .execute true 3 4, .execute false 5 6, .execute false 14 15]
    (fun history => history.breaker.state = .stateHalfOpen ∧ history.breaker.successCount = 1) ⟨rfl, rfl⟩
    (by decide +kernel)
  obtain ⟨halfOpen, one⟩ := of_decide_eq_true outcome
  obtain ⟨-, counted, -⟩ := opening_law smallConfig reached
  exact ⟨history, reached, halfOpen, (counted.halfOpen halfOpen).1.symm.trans one⟩

end EventGateway.Resilience
