import EventGateway.Lib.Trail
import EventGateway.Resilience.CircuitBreaker

/-! The callbacks of a circuit breaker. `changeState` and `Reset` launch one goroutine for each change
that they tell of; here the callback is set, and the function that is executed may also panic: the deferred
unlock runs, and what was assigned before the function stays. -/

namespace EventGateway.Resilience
open Lib

def CircuitBreaker.resetLaunched (cb : CircuitBreaker) : List Notification :=
  if cb.state ≠ .stateClosed then [⟨cb.state, .stateClosed, true⟩] else []

structure NotifiedHistory where
  breaker : CircuitBreaker
  launched : List Notification
  clock : Time

inductive NotifiedCall where
  | execute (outcome : FnOutcome) (start stop : Time)
  | reset (now : Time)
  deriving DecidableEq

def NotifiedHistory.step (history : NotifiedHistory) : NotifiedCall → Option NotifiedHistory
  | .execute outcome start stop =>
      if history.clock ≤ start ∧ start ≤ stop then
        let after := history.breaker.execute outcome start stop
        some ⟨after.breaker, history.launched ++ after.launched, stop⟩
      else none
  | .reset now =>
      if history.clock ≤ now then
        some ⟨history.breaker.reset now, history.launched ++ history.breaker.resetLaunched, now⟩
      else none

def notifiedMachine (config : Config) : Machine NotifiedHistory NotifiedCall where
  init := fun history => history.breaker = .new config history.clock ∧ history.launched = []
  step := NotifiedHistory.step

/-- The changes that there are; from Open straight to Closed only `Reset` leads. -/
def Notification.Allowed (notification : Notification) : Prop :=
  (notification.old, notification.new) ∈ [(BreakerState.stateClosed, BreakerState.stateOpen),
    (.stateOpen, .stateHalfOpen), (.stateHalfOpen, .stateClosed), (.stateHalfOpen, .stateOpen)] ∨
  notification.byReset = true ∧ notification.old = .stateOpen ∧ notification.new = .stateClosed

instance (notification : Notification) : Decidable notification.Allowed := inferInstanceAs (Decidable (_ ∨ _))

theorem Notification.Allowed.ne {notification : Notification} (allowed : notification.Allowed) :
    notification.old ≠ notification.new := by
  intro same
  rcases allowed with listed | ⟨-, isOpen, closed⟩
  · rw [same] at listed
    cases new : notification.new <;> simp [new] at listed
  · cases isOpen.symm.trans (same.trans closed)

structure Path (start : BreakerState) (notifications : List Notification) (stop : BreakerState) : Prop where
  trail : Trail Notification.old Notification.new start notifications stop
  allowed : ∀ notification ∈ notifications, notification.Allowed

namespace Path
variable {start middle stop : BreakerState}

theorem nil (state : BreakerState) : Path state [] state := ⟨.nil state, nofun⟩

theorem single {old new : BreakerState} {byReset : Bool} (allowed : Notification.Allowed ⟨old, new, byReset⟩) :
    Path old [⟨old, new, byReset⟩] new :=
  ⟨.single (⟨old, new, byReset⟩ : Notification), fun _ member => List.mem_singleton.mp member ▸ allowed⟩

theorem append {one two : List Notification} (before : Path start one middle) (after : Path middle two stop) :
    Path start (one ++ two) stop :=
  ⟨before.trail.append after.trail, List.forall_mem_append.mpr ⟨before.allowed, after.allowed⟩⟩

end Path

namespace CircuitBreaker

theorem path_halfOpen {cb : CircuitBreaker} (halfOpen : cb.state = .stateHalfOpen) (outcome : FnOutcome)
    (start stop : Time) : Path .stateHalfOpen (cb.executeHalfOpen outcome start stop).launched
      (cb.executeHalfOpen outcome start stop).breaker.state := by
  match outcome with
  | .panicked => exact halfOpen ▸ .nil _
  | .returned true =>
    simp only [executeHalfOpen, changeState, halfOpen]
    exact .single (by decide)
  | .returned false =>
    simp only [executeHalfOpen, changeState, halfOpen]
    split
    next => exact .single (by decide)
    next => exact halfOpen ▸ .nil _

theorem path_execute (cb : CircuitBreaker) (outcome : FnOutcome) (start stop : Time) :
    Path cb.state (cb.execute outcome start stop).launched (cb.execute outcome start stop).breaker.state := by
  unfold execute
  split
  next closed =>
    match outcome with
    | .panicked => exact closed ▸ .nil _
    | .returned false => exact closed ▸ .nil _
    | .returned true =>
      simp only [executeClosed, changeState, closed]
      split
      next => exact .single (by decide)
      next => exact closed ▸ .nil _
  next isOpen =>
    unfold executeOpen
    split
    next =>
      have entering : Path .stateOpen [⟨.stateOpen, .stateHalfOpen, false⟩] .stateHalfOpen :=
        .single (by decide)
      simp only [changeState, isOpen]
      exact entering.append (path_halfOpen rfl outcome start stop)
    next => exact isOpen ▸ .nil _
  next halfOpen => exact halfOpen ▸ path_halfOpen halfOpen outcome start stop

theorem path_reset (cb : CircuitBreaker) (now : Time) :
    Path cb.state cb.resetLaunched (cb.reset now).state := by
  unfold resetLaunched
  cases state : cb.state with
  | stateClosed => exact .nil _
  | stateOpen => exact .single (by decide)
  | stateHalfOpen => exact .single (by decide)

end CircuitBreaker

theorem NotifiedHistory.path_step {history after : NotifiedHistory} {call : NotifiedCall}
    (path : Path .stateClosed history.launched history.breaker.state)
    (stepped : history.step call = some after) : Path .stateClosed after.launched after.breaker.state := by
  cases call with
  | execute outcome start stop =>
    simp only [NotifiedHistory.step] at stepped
    split at stepped
    next =>
      cases stepped
      exact path.append (history.breaker.path_execute outcome start stop)
    next => cases stepped
  | reset now =>
    simp only [NotifiedHistory.step] at stepped
    split at stepped
    next =>
      cases stepped
      exact path.append (history.breaker.path_reset now)
    next => cases stepped

/-- In every reachable state the launched callbacks trace the way of the breaker: from Closed, each on from
where the last one led, by allowed changes between different states, to the state it is in. -/
theorem notifications_path (config : Config) {history : NotifiedHistory}
    (reached : (notifiedMachine config).Reachable history) :
    Trail Notification.old Notification.new .stateClosed history.launched history.breaker.state ∧
      ∀ notification ∈ history.launched, notification.old ≠ notification.new ∧ notification.Allowed := by
  have path : Path .stateClosed history.launched history.breaker.state := by
    apply reached.invariant (fun history => Path .stateClosed history.launched history.breaker.state)
    · intro history ⟨new, empty⟩
      rw [new, empty]
      exact .nil _
    · intro history call after _ path _ stepped
      exact NotifiedHistory.path_step path stepped
  exact ⟨path.trail, fun notification member => ⟨(path.allowed _ member).ne, path.allowed _ member⟩⟩

theorem notifications_path_reset : ∃ history, (notifiedMachine smallConfig).Reachable history ∧
    history.launched = [⟨.stateClosed, .stateOpen, false⟩, ⟨.stateOpen, .stateHalfOpen, false⟩,
      ⟨.stateHalfOpen, .stateOpen, false⟩, ⟨.stateOpen, .stateClosed, true⟩] ∧
    Trail Notification.old Notification.new .stateClosed history.launched history.breaker.state := by
  obtain ⟨history, reached, outcome⟩ := (notifiedMachine smallConfig).reaches_of_run (fun _ _ => True)
    ⟨.new smallConfig 0, [], 0⟩
    [.execute (.returned true) 1 2, .execute (.returned true) 3 4, .execute (.returned false) 14 15,
      .execute (.returned true) 16 17, .reset 18]
    (fun history => history.launched = [⟨.stateClosed, .stateOpen, false⟩, ⟨.stateOpen, .stateHalfOpen, false⟩,
      ⟨.stateHalfOpen, .stateOpen, false⟩, ⟨.stateOpen, .stateClosed, true⟩]) ⟨rfl, rfl⟩ (by decide +kernel)
  exact ⟨history, reached, of_decide_eq_true outcome, (notifications_path smallConfig reached).1⟩

end EventGateway.Resilience
