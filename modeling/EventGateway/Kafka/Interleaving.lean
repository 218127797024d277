import EventGateway.Kafka.Counters
import EventGateway.Lib.RWMutex

/-! The circuit breaker of the Kafka producer, one atomic operation at a time. `recordSuccess` and
`recordFailure` change the counters without the lock, test under the read lock, and test again under the write
lock before they switch the circuit; the function of the reset timer and `Close` take the write lock. Any
number of calls is in progress at once, and any of them takes the next step. -/

namespace EventGateway.Kafka
open Lib Lib.Calls Lib.RWMutex

inductive Result where
  | success
  | failure
  deriving DecidableEq

namespace Result

def other : Result → Result
  | .success => .failure
  | .failure => .success

/-- The value of `circuitOpen` that enough results of this kind bring about. -/
def circuit : Result → Bool
  | .success => false
  | .failure => true

theorem other_ne (result : Result) : result.other ≠ result := by
  cases result with
  | success | failure => decide

theorem eq_or_eq_other (one two : Result) : one = two ∨ one = two.other := by
  cases one with
  | success | failure =>
    cases two with
    | success | failure => decide

end Result

namespace Breaker32
variable (breaker : Breaker32) (result other : Result) (value : Int32)

def count : Result → Int32
  | .success => breaker.successCount
  | .failure => breaker.failureCount

def setCount : Result → Breaker32
  | .success => { breaker with successCount := value }
  | .failure => { breaker with failureCount := value }

@[simp] theorem count_setCount :
    (breaker.setCount value result).count other = if other = result then value else breaker.count other := by
  cases result with
  | success | failure =>
    cases other with
    | success | failure => rfl

@[simp] theorem setCount_circuitOpen : (breaker.setCount value result).circuitOpen = breaker.circuitOpen := by
  cases result with
  | success | failure => rfl

@[simp] theorem setCount_resetTimer : (breaker.setCount value result).resetTimer = breaker.resetTimer := by
  cases result with
  | success | failure => rfl

end Breaker32

/-- The operation that a call in progress takes next. The first group is `recordSuccess` and `recordFailure`,
the second the function of the reset timer, the third `Close`. -/
inductive Place where
  /-- `Add(1)` on the counter of its own kind. -/
  | adding (result : Result)
  /-- `Store(0)` on the counter of the other kind. -/
  | storing (result : Result)
  | rLocking (result : Result)
  /-- Reads `circuitOpen` under the read lock. -/
  | checking (result : Result)
  | loading (result : Result)
  | rUnlocking (result : Result) (should : Bool)
  | locking (result : Result)
  /-- Reads `circuitOpen` again, under the write lock. -/
  | rechecking (result : Result)
  | reloading (result : Result)
  /-- Writes `circuitOpen`. -/
  | switching (result : Result)
  /-- `Store(0)` on the counter of its own kind. -/
  | zeroing (result : Result)
  /-- `circuitBreakerResetTimer.Stop()`. -/
  | stopping
  /-- `time.AfterFunc`. -/
  | arming
  | unlocking
  | firing
  | resetting
  | resettingFailures
  | resettingSuccesses
  | closing
  /-- `circuitBreakerResetTimer.Stop()` of `Close`. -/
  | halting
  | returned
  deriving DecidableEq

def Place.hold : Place → Option Hold
  | .checking _ | .loading _ | .rUnlocking _ _ => some .read
  | .rechecking _ | .reloading _ | .switching _ | .zeroing _ | .stopping | .arming | .unlocking | .resetting
  | .resettingFailures | .resettingSuccesses | .halting => some .write
  | _ => none

/-- The producer with all calls in progress. The last four fields are records: the results added to each
counter, the switches of the circuit by results of each kind, the times that the timer closed it, and whether
`Close` has stopped the timer. -/
structure Traffic where
  breaker : Breaker32
  clock : Time
  calls : List Place
  recorded : Result → Nat
  switched : Result → Nat
  autoResets : Nat
  stopped : Bool

namespace Traffic

def new (clock : Time) : Traffic where
  breaker := .new
  clock := clock
  calls := []
  recorded := fun _ => 0
  switched := fun _ => 0
  autoResets := 0
  stopped := false

/-- The operation of a call that is there, and where the call is after it. A lock that cannot be taken blocks. -/
def perform (traffic : Traffic) : Place → Option (Traffic × Place)
  | .adding result => some ({ traffic with
      breaker := traffic.breaker.setCount (traffic.breaker.count result + 1) result
      recorded := Function.update traffic.recorded result (traffic.recorded result + 1) }, .storing result)
  | .storing result => some ({ traffic with breaker := traffic.breaker.setCount 0 result.other }, .rLocking result)
  | .rLocking result => if CanRLock Place.hold traffic.calls then some (traffic, .checking result) else none
  | .checking result =>
      some (traffic, if traffic.breaker.circuitOpen = result.circuit then .rUnlocking result false else .loading result)
  | .loading result =>
      some (traffic, .rUnlocking result (Breaker32.circuitBreakerThreshold ≤ traffic.breaker.count result))
  | .rUnlocking result should => some (traffic, if should then .locking result else .returned)
  | .locking result => if CanLock Place.hold traffic.calls then some (traffic, .rechecking result) else none
  | .rechecking result =>
      some (traffic, if traffic.breaker.circuitOpen = result.circuit then .unlocking else .reloading result)
  | .reloading result => some (traffic,
      if Breaker32.circuitBreakerThreshold ≤ traffic.breaker.count result then .switching result else .unlocking)
  | .switching result => some ({ traffic with
      breaker := { traffic.breaker with circuitOpen := result.circuit }
      switched := Function.update traffic.switched result (traffic.switched result + 1) }, .zeroing result)
  | .zeroing result => some ({ traffic with breaker := traffic.breaker.setCount 0 result },
      match result with
      | .success => .unlocking
      | .failure => .stopping)
  | .stopping => some ({ traffic with breaker := { traffic.breaker with resetTimer := none } }, .arming)
  | .arming => some ({ traffic with
      breaker := { traffic.breaker with resetTimer := some (traffic.clock + resetDelay) } }, .unlocking)
  | .unlocking => some (traffic, .returned)
  | .firing => if CanLock Place.hold traffic.calls then some (traffic, .resetting) else none
  | .resetting => some ({ traffic with
      breaker := { traffic.breaker with circuitOpen := false }
      autoResets := traffic.autoResets + traffic.breaker.circuitOpen.toNat }, .resettingFailures)
  | .resettingFailures => some ({ traffic with breaker := traffic.breaker.setCount 0 .failure }, .resettingSuccesses)
  | .resettingSuccesses => some ({ traffic with breaker := traffic.breaker.setCount 0 .success }, .unlocking)
  | .closing => if CanLock Place.hold traffic.calls then some (traffic, .halting) else none
  | .halting => some ({ traffic with
      breaker := { traffic.breaker with resetTimer := none }, stopped := true }, .unlocking)
  | .returned => none

end Traffic

/-- A call of `recordSuccess` or `recordFailure` begins, or one of `Close`; a call takes its next step; time
passes; or the timer fires, and its function runs as one more call. -/
inductive TrafficStep where
  | record (result : Result)
  | close
  | advance (index : Nat)
  | tick (now : Time)
  | fire
  deriving DecidableEq

namespace Traffic

def begin (traffic : Traffic) (place : Place) : Traffic := { traffic with calls := traffic.calls ++ [place] }

def step (traffic : Traffic) : TrafficStep → Option Traffic
  | .record result => some (traffic.begin (.adding result))
  | .close => some (traffic.begin .closing)
  | .advance index => do
    let place ← traffic.calls[index]?
    let (after, next) ← traffic.perform place
    pure { after with calls := after.calls.set index next }
  | .tick now => if traffic.clock ≤ now then some { traffic with clock := now } else none
  | .fire =>
    match traffic.breaker.resetTimer with
    | some due =>
      if due ≤ traffic.clock then
        some ({ traffic with breaker := { traffic.breaker with resetTimer := none } }.begin .firing)
      else none
    | none => none

end Traffic

def trafficMachine : Machine Traffic TrafficStep where
  init := fun traffic => ∃ clock, traffic = .new clock
  step := Traffic.step

inductive Operation (traffic : Traffic) : Place → Traffic → Place → Prop where
  | add (result : Result) : Operation traffic (.adding result) { traffic with
      breaker := traffic.breaker.setCount (traffic.breaker.count result + 1) result
      recorded := Function.update traffic.recorded result (traffic.recorded result + 1) } (.storing result)
  | store (result : Result) : Operation traffic (.storing result)
      { traffic with breaker := traffic.breaker.setCount 0 result.other } (.rLocking result)
  | rLock (result : Result) (free : CanRLock Place.hold traffic.calls) :
      Operation traffic (.rLocking result) traffic (.checking result)
  | checkDone (result : Result) (done : traffic.breaker.circuitOpen = result.circuit) :
      Operation traffic (.checking result) traffic (.rUnlocking result false)
  | check (result : Result) (apart : traffic.breaker.circuitOpen ≠ result.circuit) :
      Operation traffic (.checking result) traffic (.loading result)
  | loadBelow (result : Result) (below : ¬Breaker32.circuitBreakerThreshold ≤ traffic.breaker.count result) :
      Operation traffic (.loading result) traffic (.rUnlocking result false)
  | load (result : Result) (reached : Breaker32.circuitBreakerThreshold ≤ traffic.breaker.count result) :
      Operation traffic (.loading result) traffic (.rUnlocking result true)
  | rUnlock (result : Result) : Operation traffic (.rUnlocking result false) traffic .returned
  | goOn (result : Result) : Operation traffic (.rUnlocking result true) traffic (.locking result)
  | lock (result : Result) (free : CanLock Place.hold traffic.calls) :
      Operation traffic (.locking result) traffic (.rechecking result)
  | recheckDone (result : Result) (done : traffic.breaker.circuitOpen = result.circuit) :
      Operation traffic (.rechecking result) traffic .unlocking
  | recheck (result : Result) (apart : traffic.breaker.circuitOpen ≠ result.circuit) :
      Operation traffic (.rechecking result) traffic (.reloading result)
  | reloadBelow (result : Result) (below : ¬Breaker32.circuitBreakerThreshold ≤ traffic.breaker.count result) :
      Operation traffic (.reloading result) traffic .unlocking
  | reload (result : Result) (reached : Breaker32.circuitBreakerThreshold ≤ traffic.breaker.count result) :
      Operation traffic (.reloading result) traffic (.switching result)
  | switch (result : Result) : Operation traffic (.switching result) { traffic with
      breaker := { traffic.breaker with circuitOpen := result.circuit }
      switched := Function.update traffic.switched result (traffic.switched result + 1) } (.zeroing result)
  | zeroSuccesses : Operation traffic (.zeroing .success)
      { traffic with breaker := traffic.breaker.setCount 0 .success } .unlocking
  | zeroFailures : Operation traffic (.zeroing .failure)
      { traffic with breaker := traffic.breaker.setCount 0 .failure } .stopping
  | stop : Operation traffic .stopping
      { traffic with breaker := { traffic.breaker with resetTimer := none } } .arming
  | arm : Operation traffic .arming { traffic with
      breaker := { traffic.breaker with resetTimer := some (traffic.clock + resetDelay) } } .unlocking
  | unlock : Operation traffic .unlocking traffic .returned
  | lockFired (free : CanLock Place.hold traffic.calls) : Operation traffic .firing traffic .resetting
  | reset : Operation traffic .resetting { traffic with
      breaker := { traffic.breaker with circuitOpen := false }
      autoResets := traffic.autoResets + traffic.breaker.circuitOpen.toNat } .resettingFailures
  | resetFailures : Operation traffic .resettingFailures
      { traffic with breaker := traffic.breaker.setCount 0 .failure } .resettingSuccesses
  | resetSuccesses : Operation traffic .resettingSuccesses
      { traffic with breaker := traffic.breaker.setCount 0 .success } .unlocking
  | lockClosing (free : CanLock Place.hold traffic.calls) : Operation traffic .closing traffic .halting
  | halt : Operation traffic .halting { traffic with
      breaker := { traffic.breaker with resetTimer := none }, stopped := true } .unlocking

theorem Traffic.perform_cases {traffic after : Traffic} {place next : Place}
    (performed : traffic.perform place = some (after, next)) : Operation traffic place after next := by
  cases place with
  | rLocking | locking | firing | closing =>
    simp only [Traffic.perform] at performed
    split at performed
    next free =>
      cases performed
      constructor
      exact free
    next => cases performed
  | checking | rechecking | reloading =>
    simp only [Traffic.perform, Option.some.injEq, Prod.mk.injEq] at performed
    obtain ⟨rfl, rfl⟩ := performed
    split
    all_goals
      constructor
      assumption
  | loading result =>
    simp only [Traffic.perform, Option.some.injEq, Prod.mk.injEq] at performed
    obtain ⟨rfl, rfl⟩ := performed
    by_cases reached : Breaker32.circuitBreakerThreshold ≤ traffic.breaker.count result
    · simpa only [reached, decide_true] using Operation.load result reached
    · simpa only [reached, decide_false] using Operation.loadBelow result reached
  | rUnlocking result should =>
    cases performed
    cases should with
    | true => exact .goOn result
    | false => exact .rUnlock result
  | zeroing result =>
    cases performed
    cases result with
    | success => exact .zeroSuccesses
    | failure => exact .zeroFailures
  | adding | storing | switching | stopping | arming | unlocking | resetting | resettingFailures | resettingSuccesses
  | halting =>
    cases performed
    constructor
  | returned => cases performed

inductive TrafficMove (traffic : Traffic) : TrafficStep → Traffic → Prop where
  | record (result : Result) : TrafficMove traffic (.record result) (traffic.begin (.adding result))
  | close : TrafficMove traffic .close (traffic.begin .closing)
  | advance (index : Nat) (place next : Place) (after : Traffic) (found : traffic.calls[index]? = some place)
      (operation : Operation traffic place after next) :
      TrafficMove traffic (.advance index) { after with calls := traffic.calls.set index next }
  | tick (now : Time) (late : traffic.clock ≤ now) : TrafficMove traffic (.tick now) { traffic with clock := now }
  | fire (due : Time) (armed : traffic.breaker.resetTimer = some due) (late : due ≤ traffic.clock) :
      TrafficMove traffic .fire
        ({ traffic with breaker := { traffic.breaker with resetTimer := none } }.begin .firing)

namespace Traffic
variable {traffic after : Traffic} {place next : Place} {label : TrafficStep}

theorem operation_calls (operation : Operation traffic place after next) : after.calls = traffic.calls := by
  cases operation with
  | _ => rfl

theorem operation_change (operation : Operation traffic place after next) :
    Change Place.hold traffic.calls place.hold next.hold := by
  cases operation with
  | rLock result free => exact .rLocks free
  | lock result free => exact .locks free
  | lockFired free => exact .locks free
  | lockClosing free => exact .locks free
  | _ => constructor

theorem step_cases (stepped : traffic.step label = some after) : TrafficMove traffic label after := by
  cases label with
  | record result =>
    cases stepped
    exact .record result
  | close =>
    cases stepped
    exact .close
  | advance index =>
    obtain ⟨place, found, rest⟩ := Option.bind_eq_some_iff.mp stepped
    obtain ⟨⟨moved, next⟩, performed, done⟩ := Option.bind_eq_some_iff.mp rest
    cases done
    have operation := perform_cases performed
    have moved := TrafficMove.advance index place next moved found operation
    rwa [← operation_calls operation] at moved
  | tick now =>
    simp only [step] at stepped
    split at stepped
    next late =>
      cases stepped
      exact .tick now late
    next => cases stepped
  | fire =>
    simp only [step] at stepped
    split at stepped
    next due armed =>
      split at stepped
      next late =>
        cases stepped
        exact .fire due armed late
      next => cases stepped
    next => cases stepped

end Traffic

/-! ### Calls one after the other -/

def Traffic.Quiet (traffic : Traffic) : Prop := ∀ call ∈ traffic.calls, call = .returned

instance (traffic : Traffic) : Decidable traffic.Quiet := inferInstanceAs (Decidable (∀ _ ∈ _, _))

section Alone
variable {ended : List Place} {clock : Time} {breaker moved final : Breaker32} {place next : Place} {result : Result}

/-- The last call goes on from there without interruption until it has returned, and leaves this breaker. -/
def Finishes (ended : List Place) (clock : Time) (breaker : Breaker32) (place : Place) (final : Breaker32) : Prop :=
  ∀ traffic : Traffic, traffic.calls = ended ++ [place] → traffic.breaker = breaker → traffic.clock = clock →
    ∃ steps after, trafficMachine.run (fun _ _ => True) traffic (List.replicate steps (.advance ended.length)) =
      some after ∧ after.calls = ended ++ [.returned] ∧ after.breaker = final

def Performs (clock : Time) (breaker : Breaker32) (place : Place) (moved : Breaker32) (next : Place) : Prop :=
  ∀ traffic : Traffic, (place.hold = none → CanLock Place.hold traffic.calls) → traffic.breaker = breaker →
    traffic.clock = clock → ∃ after, traffic.perform place = some (after, next) ∧ after.breaker = moved

theorem operation_clock {traffic after : Traffic} (operation : Operation traffic place after next) :
    after.clock = traffic.clock := by
  cases operation with
  | _ => rfl

theorem Finishes.after (rest : Finishes ended clock moved next final) (quiet : ∀ call ∈ ended, call = .returned)
    (performs : Performs clock breaker place moved next) : Finishes ended clock breaker place final := by
  intro traffic calls same time
  have free (outside : place.hold = none) : CanLock Place.hold traffic.calls := by
    intro call member
    rw [calls] at member
    rcases List.mem_append.mp member with before | last
    · rw [quiet call before]
      rfl
    · rwa [List.mem_singleton.mp last]
  obtain ⟨after, performed, moves⟩ := performs traffic free same time
  have operation := Traffic.perform_cases performed
  have stepped : traffic.step (.advance ended.length) = some { after with calls := ended ++ [next] } := by
    simp [Traffic.step, calls, performed, Traffic.operation_calls operation]
  obtain ⟨steps, last, ran, returned, left⟩ := rest { after with calls := ended ++ [next] } rfl moves
    ((operation_clock operation).trans time)
  refine ⟨steps + 1, last, ?_, returned, left⟩
  have begun : trafficMachine.step traffic (.advance ended.length) = _ := stepped
  simp only [List.replicate_succ, Machine.run, if_true, begun, Option.bind_some]
  exact ran

theorem finishes_returned : Finishes ended clock breaker .returned breaker :=
  fun traffic calls same _ => ⟨0, traffic, rfl, calls, same⟩

theorem finishes_unlocking (quiet : ∀ call ∈ ended, call = .returned) :
    Finishes ended clock breaker .unlocking breaker :=
  finishes_returned.after quiet (fun traffic _ same _ => ⟨traffic, rfl, same⟩)

/-- From the read lock on: the test is made at once, and only if it holds the call goes on. -/
theorem finishes_rLocking (quiet : ∀ call ∈ ended, call = .returned)
    (stays : ¬(breaker.circuitOpen ≠ result.circuit ∧ Breaker32.circuitBreakerThreshold ≤ breaker.count result) →
      final = breaker)
    (goesOn : breaker.circuitOpen ≠ result.circuit → Breaker32.circuitBreakerThreshold ≤ breaker.count result →
      Finishes ended clock breaker (.switching result) final) :
    Finishes ended clock breaker (.rLocking result) final := by
  have leaves (same : final = breaker) : Finishes ended clock breaker (.rUnlocking result false) final :=
    same ▸ finishes_returned.after quiet (fun traffic _ same _ => ⟨traffic, rfl, same⟩)
  have checking : Finishes ended clock breaker (.checking result) final := by
    by_cases done : breaker.circuitOpen = result.circuit
    · refine (leaves (stays (fun wants => wants.1 done))).after quiet (fun traffic _ same _ => ⟨traffic, ?_, same⟩)
      simp only [Traffic.perform, same, done, if_true]
    · have loading : Finishes ended clock breaker (.loading result) final := by
        by_cases reached : Breaker32.circuitBreakerThreshold ≤ breaker.count result
        · have reloading : Finishes ended clock breaker (.reloading result) final := by
            refine (goesOn done reached).after quiet (fun traffic _ same _ => ⟨traffic, ?_, same⟩)
            simp only [Traffic.perform, same, reached, if_true]
          have rechecking : Finishes ended clock breaker (.rechecking result) final := by
            refine reloading.after quiet (fun traffic _ same _ => ⟨traffic, ?_, same⟩)
            simp only [Traffic.perform, same, done, if_false]
          have locking : Finishes ended clock breaker (.locking result) final :=
            rechecking.after quiet (fun traffic free same _ => ⟨traffic, if_pos (free rfl), same⟩)
          have rUnlocking : Finishes ended clock breaker (.rUnlocking result true) final :=
            locking.after quiet (fun traffic _ same _ => ⟨traffic, rfl, same⟩)
          refine rUnlocking.after quiet (fun traffic _ same _ => ⟨traffic, ?_, same⟩)
          simp only [Traffic.perform, same, reached, decide_true]
        · refine (leaves (stays (fun wants => reached wants.2))).after quiet
            (fun traffic _ same _ => ⟨traffic, ?_, same⟩)
          simp only [Traffic.perform, same, reached, decide_false]
      refine loading.after quiet (fun traffic _ same _ => ⟨traffic, ?_, same⟩)
      simp only [Traffic.perform, same, done, if_false]
  refine checking.after quiet (fun traffic free same _ => ⟨traffic, if_pos ?_, same⟩)
  intro call member
  rw [free rfl call member]
  decide

theorem finishes_success (quiet : ∀ call ∈ ended, call = .returned) :
    Finishes ended clock breaker (.adding .success) breaker.recordSuccess := by
  have locking : Finishes ended clock { breaker with successCount := breaker.successCount + 1, failureCount := 0 }
      (.rLocking .success) breaker.recordSuccess := by
    apply finishes_rLocking quiet
    · intro stays
      exact if_neg (by simpa [Result.circuit, Breaker32.count] using stays)
    · intro isOpen reached
      have switched : breaker.recordSuccess = ⟨false, 0, 0, breaker.resetTimer⟩ :=
        if_pos ⟨by simpa [Result.circuit] using isOpen, reached⟩
      rw [switched]
      have zeroing : Finishes ended clock ⟨false, 0, breaker.successCount + 1, breaker.resetTimer⟩ (.zeroing .success)
          ⟨false, 0, 0, breaker.resetTimer⟩ :=
        (finishes_unlocking quiet).after quiet (fun traffic _ same _ => ⟨_, rfl, by rw [same]; rfl⟩)
      exact zeroing.after quiet (fun traffic _ same _ => ⟨_, rfl, by rw [same]; rfl⟩)
  have storing : Finishes ended clock { breaker with successCount := breaker.successCount + 1 } (.storing .success)
      breaker.recordSuccess :=
    locking.after quiet (fun traffic _ same _ => ⟨_, rfl, by rw [same]; rfl⟩)
  exact storing.after quiet (fun traffic _ same _ => ⟨_, rfl, by rw [same]; rfl⟩)

theorem finishes_failure (quiet : ∀ call ∈ ended, call = .returned) :
    Finishes ended clock breaker (.adding .failure) (breaker.recordFailure clock) := by
  have locking : Finishes ended clock { breaker with failureCount := breaker.failureCount + 1, successCount := 0 }
      (.rLocking .failure) (breaker.recordFailure clock) := by
    apply finishes_rLocking quiet
    · intro stays
      exact if_neg (by simpa [Result.circuit, Breaker32.count] using stays)
    · intro closed reached
      have switched : breaker.recordFailure clock = ⟨true, 0, 0, some (clock + resetDelay)⟩ :=
        if_pos ⟨by simpa [Result.circuit] using closed, reached⟩
      rw [switched]
      have arming : Finishes ended clock ⟨true, 0, 0, none⟩ .arming ⟨true, 0, 0, some (clock + resetDelay)⟩ :=
        (finishes_unlocking quiet).after quiet (fun traffic _ same time => ⟨_, rfl, by rw [same, time]⟩)
      have stopping : Finishes ended clock ⟨true, 0, 0, breaker.resetTimer⟩ .stopping
          ⟨true, 0, 0, some (clock + resetDelay)⟩ :=
        arming.after quiet (fun traffic _ same _ => ⟨_, rfl, by rw [same]⟩)
      have zeroing : Finishes ended clock ⟨true, breaker.failureCount + 1, 0, breaker.resetTimer⟩ (.zeroing .failure)
          ⟨true, 0, 0, some (clock + resetDelay)⟩ :=
        stopping.after quiet (fun traffic _ same _ => ⟨_, rfl, by rw [same]; rfl⟩)
      exact zeroing.after quiet (fun traffic _ same _ => ⟨_, rfl, by rw [same]; rfl⟩)
  have storing : Finishes ended clock { breaker with failureCount := breaker.failureCount + 1 } (.storing .failure)
      (breaker.recordFailure clock) :=
    locking.after quiet (fun traffic _ same _ => ⟨_, rfl, by rw [same]; rfl⟩)
  exact storing.after quiet (fun traffic _ same _ => ⟨_, rfl, by rw [same]; rfl⟩)

end Alone

def Result.counterStep (result : Result) (now : Time) : CounterStep :=
  match result with
  | .success => .recordSuccess
  | .failure => .recordFailure now

/-- A call that no other call interrupts does what one step of the breaker does that takes calls one after the
other. -/
theorem record_alone {traffic : Traffic} (quiet : traffic.Quiet) (result : Result) :
    ∃ steps after, trafficMachine.run (fun _ _ => True) traffic
        (.record result :: List.replicate steps (.advance traffic.calls.length)) = some after ∧
      after.Quiet ∧ after.breaker = traffic.breaker.apply (result.counterStep traffic.clock) := by
  have finishes : Finishes traffic.calls traffic.clock traffic.breaker (.adding result)
      (traffic.breaker.apply (result.counterStep traffic.clock)) := by
    cases result with
    | success => exact finishes_success quiet
    | failure => exact finishes_failure quiet
  obtain ⟨steps, after, ran, calls, left⟩ := finishes (traffic.begin (.adding result)) rfl rfl rfl
  refine ⟨steps, after, ?_, ?_, left⟩
  · have begun : trafficMachine.step traffic (.record result) = some (traffic.begin (.adding result)) := rfl
    rw [Machine.run, if_pos trivial, begun, Option.bind_some]
    exact ran
  · intro call member
    rw [calls] at member
    rcases List.mem_append.mp member with before | last
    · exact quiet call before
    · exact List.mem_singleton.mp last

end EventGateway.Kafka
