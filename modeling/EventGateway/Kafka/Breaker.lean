import EventGateway.Domain.Event
import EventGateway.Lib.Machine

/-! The circuit breaker inside the Kafka producer. Calls that passed the check earlier
report their result whenever they end, also after the circuit has opened, and the reset
timer fires on its own. The counters are of 32 bits in the source: a failure count is
compared only while the circuit is closed and a success count only while it is open, and
there both stay below the threshold, so that they are natural numbers here. -/

namespace EventGateway.Kafka
open Lib

def circuitBreakerThreshold : Nat := 5

def resetDelay : Int := 30 * 1000000000

structure ProducerBreaker where
  circuitOpen : Bool
  failureCount : Nat
  successCount : Nat
  /-- When the reset timer is due, as long as it has neither fired nor been stopped. -/
  resetTimer : Option Time
  deriving DecidableEq

namespace ProducerBreaker

def new : ProducerBreaker := ⟨false, 0, 0, none⟩

def recordSuccess (breaker : ProducerBreaker) : ProducerBreaker :=
  let breaker := { breaker with successCount := breaker.successCount + 1, failureCount := 0 }
  if breaker.circuitOpen ∧ circuitBreakerThreshold ≤ breaker.successCount then
    { breaker with circuitOpen := false, successCount := 0 }
  else breaker

def recordFailure (breaker : ProducerBreaker) (now : Time) : ProducerBreaker :=
  let breaker := { breaker with failureCount := breaker.failureCount + 1, successCount := 0 }
  if breaker.circuitOpen = false ∧ circuitBreakerThreshold ≤ breaker.failureCount then
    { breaker with circuitOpen := true, failureCount := 0, resetTimer := some (now + resetDelay) }
  else breaker

def autoReset (_ : ProducerBreaker) : ProducerBreaker := ⟨false, 0, 0, none⟩

end ProducerBreaker

structure BreakerLoad where
  breaker : ProducerBreaker
  clock : Time
  inFlight : Nat
  deriving DecidableEq

/-- A call passes the check, a call in flight ends with a success, with a failure or because its
context is cancelled, time passes, or the timer fires. -/
inductive BreakerStep where
  | enter
  | recordSuccess
  | recordFailure
  | abandon
  | tick (now : Time)
  | fire
  deriving DecidableEq

def BreakerLoad.step (load : BreakerLoad) : BreakerStep → Option BreakerLoad
  | .enter => if load.breaker.circuitOpen then none else some { load with inFlight := load.inFlight + 1 }
  | .recordSuccess =>
      if 0 < load.inFlight then
        some { load with breaker := load.breaker.recordSuccess, inFlight := load.inFlight - 1 }
      else none
  | .recordFailure =>
      if 0 < load.inFlight then
        some { load with breaker := load.breaker.recordFailure load.clock, inFlight := load.inFlight - 1 }
      else none
  | .abandon => if 0 < load.inFlight then some { load with inFlight := load.inFlight - 1 } else none
  | .tick now => if load.clock ≤ now then some { load with clock := now } else none
  | .fire =>
      match load.breaker.resetTimer with
      | some due => if due ≤ load.clock then some { load with breaker := load.breaker.autoReset } else none
      | none => none

def loadMachine : Machine BreakerLoad BreakerStep where
  init := fun load => load.breaker = .new ∧ load.inFlight = 0
  step := BreakerLoad.step

def BreakerLoad.run (load : BreakerLoad) (steps : List BreakerStep) : Option BreakerLoad :=
  loadMachine.run (fun _ _ => True) load steps

inductive BreakerMove (load after : BreakerLoad) : BreakerStep → Prop where
  | idle (step : BreakerStep) (other : step ≠ .recordFailure ∧ step ≠ .fire) (same : after.breaker = load.breaker) :
      BreakerMove load after step
  | success (same : after.breaker = load.breaker.recordSuccess) : BreakerMove load after .recordSuccess
  | failure (same : after.breaker = load.breaker.recordFailure load.clock) : BreakerMove load after .recordFailure
  | fire (same : after.breaker = load.breaker.autoReset) : BreakerMove load after .fire

theorem BreakerLoad.step_cases {load after : BreakerLoad} {step : BreakerStep}
    (stepped : load.step step = some after) : BreakerMove load after step := by
  cases step with
  | fire =>
    simp only [BreakerLoad.step] at stepped
    split at stepped
    next =>
      split at stepped
      next =>
        cases stepped
        exact .fire rfl
      next => cases stepped
    next => cases stepped
  | enter | recordSuccess | recordFailure | abandon | tick =>
    simp only [BreakerLoad.step] at stepped
    split at stepped
    all_goals cases stepped
    first
      | exact .success rfl
      | exact .failure rfl
      | exact .idle _ (by simp) rfl

theorem BreakerLoad.step_recordFailure {load after : BreakerLoad} (stepped : load.step .recordFailure = some after) :
    after.breaker = load.breaker.recordFailure load.clock := by
  cases BreakerLoad.step_cases stepped with
  | idle _ other => exact absurd rfl other.1
  | failure same => exact same

theorem BreakerLoad.step_fire {load after : BreakerLoad} (stepped : load.step .fire = some after) :
    after.breaker = load.breaker.autoReset := by
  cases BreakerLoad.step_cases stepped with
  | idle _ other => exact absurd rfl other.2
  | fire same => exact same

theorem BreakerLoad.run_cons {load after : BreakerLoad} {step : BreakerStep} {rest : List BreakerStep}
    (ran : load.run (step :: rest) = some after) : ∃ next, load.step step = some next ∧ next.run rest = some after := by
  obtain ⟨next, -, stepped, later⟩ := Machine.run_cons ran
  exact ⟨next, stepped, later⟩

section Window
variable {load after : BreakerLoad} {steps : List BreakerStep}

def ProducerBreaker.Warned (breaker : ProducerBreaker) (failures : Nat) : Prop :=
  breaker.circuitOpen = true ∨ failures ≤ breaker.failureCount

def ProducerBreaker.Calm (breaker : ProducerBreaker) (failures : Nat) : Prop :=
  breaker.circuitOpen = false ∧ breaker.failureCount ≤ failures

theorem warned_recordFailure {breaker : ProducerBreaker} {failures : Nat} (warned : breaker.Warned failures)
    (now : Time) : (breaker.recordFailure now).Warned (failures + 1) := by
  simp only [ProducerBreaker.recordFailure]
  split
  next => exact .inl rfl
  next => exact warned.imp id Nat.succ_le_succ

theorem open_of_warned {breaker : ProducerBreaker} {failures : Nat} (warned : breaker.Warned failures)
    (enough : circuitBreakerThreshold ≤ failures + 1) (now : Time) :
    (breaker.recordFailure now).circuitOpen = true := by
  simp only [ProducerBreaker.recordFailure]
  split
  next => rfl
  next stays =>
    rcases warned with isOpen | counted
    · exact isOpen
    · by_contra closed
      exact stays ⟨Bool.not_eq_true _ ▸ closed, by omega⟩

theorem calm_recordFailure {breaker : ProducerBreaker} {failures : Nat} (calm : breaker.Calm failures)
    (few : failures + 1 < circuitBreakerThreshold) (now : Time) :
    (breaker.recordFailure now).Calm (failures + 1) := by
  have count := calm.2
  simp only [ProducerBreaker.recordFailure]
  split
  next reached => omega
  next => exact ⟨calm.1, Nat.succ_le_succ count⟩

/-- Without successes and without the timer every failure is counted until the circuit opens. -/
theorem warned_run {failures : Nat} (warned : load.breaker.Warned failures) (noSuccess : .recordSuccess ∉ steps)
    (noFire : .fire ∉ steps) (ran : load.run steps = some after) :
    after.breaker.Warned (failures + steps.count .recordFailure) := by
  induction steps generalizing load failures with
  | nil => exact Option.some.inj ran ▸ warned
  | cons step rest ih =>
    obtain ⟨next, stepped, later⟩ := BreakerLoad.run_cons ran
    simp only [List.mem_cons, not_or] at noSuccess noFire
    cases BreakerLoad.step_cases stepped with
    | idle _ other same =>
      rw [List.count_cons_of_ne other.1]
      exact ih (same ▸ warned) noSuccess.2 noFire.2 later
    | success => exact absurd rfl noSuccess.1
    | failure same =>
      have counted : next.breaker.Warned (failures + 1) := same ▸ warned_recordFailure warned _
      have rest := ih counted noSuccess.2 noFire.2 later
      rwa [List.count_cons_self, Nat.add_comm _ 1, ← Nat.add_assoc]
    | fire => exact absurd rfl noFire.1

theorem calm_run {failures : Nat} (calm : load.breaker.Calm failures) (noSuccess : .recordSuccess ∉ steps)
    (few : failures + steps.count .recordFailure < circuitBreakerThreshold) (ran : load.run steps = some after) :
    after.breaker.Calm (failures + steps.count .recordFailure) := by
  induction steps generalizing load failures with
  | nil => exact Option.some.inj ran ▸ calm
  | cons step rest ih =>
    obtain ⟨next, stepped, later⟩ := BreakerLoad.run_cons ran
    simp only [List.mem_cons, not_or] at noSuccess
    cases BreakerLoad.step_cases stepped with
    | idle _ other same =>
      rw [List.count_cons_of_ne other.1] at few ⊢
      exact ih (same ▸ calm) noSuccess.2 few later
    | success => exact absurd rfl noSuccess.1
    | failure same =>
      rw [List.count_cons_self, Nat.add_comm _ 1, ← Nat.add_assoc] at few ⊢
      have counted : next.breaker.Calm (failures + 1) := same ▸ calm_recordFailure calm (by omega) _
      exact ih counted noSuccess.2 few later
    | fire same =>
      rw [List.count_cons_of_ne (by simp)] at few ⊢
      have reset : next.breaker.Calm failures := same ▸ ⟨rfl, Nat.zero_le _⟩
      exact ih reset noSuccess.2 few later

end Window

/-- As many failures as the threshold with no success between them, from any state on: the circuit is open after
the last of them exactly if the reset timer did not fire between the first and the last. -/
theorem trips_iff_not_fired (load after : BreakerLoad) (between : List BreakerStep)
    (noSuccess : .recordSuccess ∉ between) (number : between.count .recordFailure + 2 = circuitBreakerThreshold)
    (ran : load.run (.recordFailure :: (between ++ [.recordFailure])) = some after) :
    after.breaker.circuitOpen = true ↔ .fire ∉ between := by
  obtain ⟨first, begun, rest⟩ := BreakerLoad.run_cons ran
  obtain ⟨last, middle, ended⟩ := Machine.run_append rest
  obtain ⟨final, stepped, done⟩ := BreakerLoad.run_cons ended
  cases Option.some.inj done
  rw [BreakerLoad.step_recordFailure stepped]
  constructor
  · intro isOpen fired
    obtain ⟨before, later, rfl⟩ := List.append_of_mem fired
    obtain ⟨due, -, tail⟩ := Machine.run_append middle
    obtain ⟨reset, firing, tail⟩ := BreakerLoad.run_cons tail
    simp only [List.count_append, List.count_cons_of_ne (show BreakerStep.fire ≠ .recordFailure by simp)] at number
    simp only [List.mem_append, List.mem_cons, not_or] at noSuccess
    have calm : reset.breaker.Calm 0 := BreakerLoad.step_fire firing ▸ ⟨rfl, Nat.zero_le _⟩
    have calm := calm_run calm noSuccess.2.2 (by omega) tail
    have closed := (calm_recordFailure calm (by omega) last.clock).1
    rw [isOpen] at closed
    cases closed
  · intro noFire
    have warned : first.breaker.Warned (0 + 1) :=
      BreakerLoad.step_recordFailure begun ▸ warned_recordFailure (.inr (Nat.zero_le _)) _
    exact open_of_warned (warned_run warned noSuccess noFire middle) (by omega) _

theorem trips_when_all_fail : ∃ after, (BreakerLoad.mk .new 0 5).run (List.replicate 5 .recordFailure) = some after ∧
    after.breaker.circuitOpen = true := by
  refine ⟨⟨⟨true, 0, 0, some 30000000000⟩, 0, 0⟩, rfl, ?_⟩
  exact (trips_iff_not_fired ⟨.new, 0, 5⟩ _ (List.replicate 3 .recordFailure) (by decide) (by decide) rfl).mpr
    (by decide)

/-- The breaker after five failures have opened it and five calls that were in flight have closed it
again: the timer of the opening is still armed. -/
def closedEarly : BreakerLoad := ⟨⟨false, 0, 0, some 30000000000⟩, 0, 5⟩

theorem closedEarly_reachable : loadMachine.Reachable closedEarly := by
  have initial : loadMachine.init ⟨.new, 0, 0⟩ := ⟨rfl, rfl⟩
  exact Machine.Reaches.run (List.replicate 15 .enter ++ List.replicate 5 .recordFailure ++
    List.replicate 5 .recordSuccess) (.start initial) rfl

/-- The timer left over from an earlier opening fires among five failures in a row, and the circuit
stays closed. -/
theorem stale_timer_keeps_closed : ∃ load after between, loadMachine.Reachable load ∧
    load.breaker.circuitOpen = false ∧ .recordSuccess ∉ between ∧
    between.count .recordFailure + 2 = circuitBreakerThreshold ∧
    load.run (.recordFailure :: (between ++ [.recordFailure])) = some after ∧ after.breaker.circuitOpen = false := by
  refine ⟨closedEarly, ⟨⟨false, 1, 0, none⟩, 30000000000, 0⟩,
    [.recordFailure, .recordFailure, .recordFailure, .tick 30000000000, .fire], closedEarly_reachable, rfl, ?_⟩
  exact ⟨by decide, by decide, rfl, rfl⟩

end EventGateway.Kafka
