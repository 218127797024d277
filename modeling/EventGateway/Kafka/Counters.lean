import EventGateway.Kafka.Breaker
import Mathlib.Data.Int.Order.Basic

/-! The breaker of the Kafka producer with counters of 32 bits, which wrap, beside the one
with unbounded counters. A counter is compared with the threshold only in one of the two
states of the circuit, and whatever enters that state sets it to zero: the two breakers
agree on the circuit for ever, although the counters do not agree. -/

namespace EventGateway.Kafka

structure Breaker32 where
  circuitOpen : Bool
  failureCount : Int32
  successCount : Int32
  resetTimer : Option Time
  deriving DecidableEq

namespace Breaker32

def circuitBreakerThreshold : Int32 := 5

def new : Breaker32 := ⟨false, 0, 0, none⟩

def recordSuccess (breaker : Breaker32) : Breaker32 :=
  let breaker := { breaker with successCount := breaker.successCount + 1, failureCount := 0 }
  if breaker.circuitOpen ∧ circuitBreakerThreshold ≤ breaker.successCount then
    { breaker with circuitOpen := false, successCount := 0 }
  else breaker

def recordFailure (breaker : Breaker32) (now : Time) : Breaker32 :=
  let breaker := { breaker with failureCount := breaker.failureCount + 1, successCount := 0 }
  if breaker.circuitOpen = false ∧ circuitBreakerThreshold ≤ breaker.failureCount then
    { breaker with circuitOpen := true, failureCount := 0, resetTimer := some (now + resetDelay) }
  else breaker

def autoReset (_ : Breaker32) : Breaker32 := ⟨false, 0, 0, none⟩

end Breaker32

inductive CounterStep where
  | recordSuccess
  | recordFailure (now : Time)
  | fire

def ProducerBreaker.apply (breaker : ProducerBreaker) : CounterStep → ProducerBreaker
  | .recordSuccess => breaker.recordSuccess
  | .recordFailure now => breaker.recordFailure now
  | .fire => breaker.autoReset

def Breaker32.apply (breaker : Breaker32) : CounterStep → Breaker32
  | .recordSuccess => breaker.recordSuccess
  | .recordFailure now => breaker.recordFailure now
  | .fire => breaker.autoReset

def ProducerBreaker.after (steps : List CounterStep) : ProducerBreaker := steps.foldl apply .new

def Breaker32.after (steps : List CounterStep) : Breaker32 := steps.foldl apply .new

/-- Every breaker that calls in flight and their timers can lead to is one after some steps. -/
theorem after_of_reachable {load : BreakerLoad} (reached : loadMachine.Reachable load) :
    ∃ steps, load.breaker = ProducerBreaker.after steps := by
  apply reached.invariant (fun load => ∃ steps, load.breaker = ProducerBreaker.after steps)
  · rintro load ⟨new, -⟩
    exact ⟨[], new⟩
  · rintro load label next - ⟨steps, before⟩ - stepped
    have append (step : CounterStep) (same : next.breaker = load.breaker.apply step) :
        next.breaker = ProducerBreaker.after (steps ++ [step]) := by
      rw [ProducerBreaker.after, List.foldl_append, same, before]
      rfl
    cases BreakerLoad.step_cases stepped with
    | idle _ _ same => exact ⟨steps, same.trans before⟩
    | success same => exact ⟨_, append .recordSuccess same⟩
    | failure same => exact ⟨_, append (.recordFailure load.clock) same⟩
    | fire same => exact ⟨_, append .fire same⟩

def Counts (narrow : Int32) (wide : Nat) : Prop := narrow.toInt = wide ∧ wide < circuitBreakerThreshold

namespace Counts
variable {narrow : Int32} {wide : Nat}

theorem zero : Counts 0 0 := ⟨rfl, by decide⟩

theorem toInt_succ (counts : Counts narrow wide) : (narrow + 1).toInt = (wide + 1 : Nat) := by
  have bound : wide < 5 := counts.2
  have one : (1 : Int32).toInt = 1 := rfl
  rw [Int32.toInt_add, counts.1, one]
  exact Int.bmod_eq_of_le (by omega) (by omega)

/-- Below the threshold the next value meets the threshold in both forms or in neither. -/
theorem reaches (counts : Counts narrow wide) :
    Breaker32.circuitBreakerThreshold ≤ narrow + 1 ↔ circuitBreakerThreshold ≤ wide + 1 := by
  have threshold : Breaker32.circuitBreakerThreshold.toInt = (circuitBreakerThreshold : Nat) := rfl
  rw [Int32.le_iff_toInt_le, counts.toInt_succ, threshold]
  exact Int.ofNat_le

theorem succ (counts : Counts narrow wide) (below : ¬circuitBreakerThreshold ≤ wide + 1) :
    Counts (narrow + 1) (wide + 1) :=
  ⟨counts.toInt_succ, not_le.mp below⟩

theorem bounds (counts : Counts narrow wide) : 0 ≤ narrow ∧ narrow < Breaker32.circuitBreakerThreshold := by
  have bound : wide < 5 := counts.2
  have threshold : Breaker32.circuitBreakerThreshold.toInt = 5 := rfl
  have zero : (0 : Int32).toInt = 0 := rfl
  rw [Int32.le_iff_toInt_le, Int32.lt_iff_toInt_lt, counts.1, threshold, zero]
  omega

end Counts

structure Agree (narrow : Breaker32) (wide : ProducerBreaker) : Prop where
  circuit : narrow.circuitOpen = wide.circuitOpen
  timer : narrow.resetTimer = wide.resetTimer
  failures : wide.circuitOpen = false → Counts narrow.failureCount wide.failureCount
  successes : wide.circuitOpen = true → Counts narrow.successCount wide.successCount

namespace Agree
variable {narrow : Breaker32} {wide : ProducerBreaker}

theorem new : Agree .new .new := ⟨rfl, rfl, fun _ => .zero, nofun⟩

theorem recordSuccess (held : Agree narrow wide) : Agree narrow.recordSuccess wide.recordSuccess := by
  have same := held.circuit
  simp only [Breaker32.recordSuccess, ProducerBreaker.recordSuccess]
  cases circuit : wide.circuitOpen with
  | false =>
    rw [circuit] at same
    simp only [same, Bool.false_eq_true, false_and, if_false]
    exact ⟨rfl, held.timer, fun _ => .zero, nofun⟩
  | true =>
    rw [circuit] at same
    have counts := held.successes circuit
    simp only [same, true_and, counts.reaches]
    split
    next => exact ⟨rfl, held.timer, fun _ => .zero, nofun⟩
    next below => exact ⟨rfl, held.timer, fun _ => .zero, fun _ => counts.succ below⟩

theorem recordFailure (held : Agree narrow wide) (now : Time) :
    Agree (narrow.recordFailure now) (wide.recordFailure now) := by
  have same := held.circuit
  simp only [Breaker32.recordFailure, ProducerBreaker.recordFailure]
  cases circuit : wide.circuitOpen with
  | true =>
    rw [circuit] at same
    simp only [same, Bool.true_eq_false, false_and, if_false]
    exact ⟨rfl, held.timer, Bool.noConfusion, fun _ => .zero⟩
  | false =>
    rw [circuit] at same
    have counts := held.failures circuit
    simp only [same, true_and, counts.reaches]
    split
    next => exact ⟨rfl, rfl, Bool.noConfusion, fun _ => .zero⟩
    next below => exact ⟨rfl, held.timer, fun _ => counts.succ below, Bool.noConfusion⟩

theorem apply (held : Agree narrow wide) (step : CounterStep) : Agree (narrow.apply step) (wide.apply step) := by
  cases step with
  | recordSuccess => exact held.recordSuccess
  | recordFailure now => exact held.recordFailure now
  | fire => exact new

theorem foldl (held : Agree narrow wide) (steps : List CounterStep) :
    Agree (steps.foldl Breaker32.apply narrow) (steps.foldl ProducerBreaker.apply wide) := by
  induction steps generalizing narrow wide with
  | nil => exact held
  | cons step rest ih => exact ih (held.apply step)

end Agree

/-- However many results are recorded, with the timer firing among them: after each step the circuit is as it is
with unbounded counters, a closed circuit has a failure count and an open one a success count from zero to below
the threshold. -/
theorem wrapping_keeps_circuit (steps : List CounterStep) :
    (Breaker32.after steps).circuitOpen = (ProducerBreaker.after steps).circuitOpen ∧
    ((Breaker32.after steps).circuitOpen = false → 0 ≤ (Breaker32.after steps).failureCount ∧
      (Breaker32.after steps).failureCount < Breaker32.circuitBreakerThreshold) ∧
    ((Breaker32.after steps).circuitOpen = true → 0 ≤ (Breaker32.after steps).successCount ∧
      (Breaker32.after steps).successCount < Breaker32.circuitBreakerThreshold) := by
  have held : Agree (Breaker32.after steps) (ProducerBreaker.after steps) := Agree.new.foldl steps
  refine ⟨held.circuit, fun closed => ?_, fun isOpen => ?_⟩
  · exact (held.failures (held.circuit ▸ closed)).bounds
  · exact (held.successes (held.circuit ▸ isOpen)).bounds

theorem successes_wrap (number : Nat) :
    (Breaker32.after (List.replicate number .recordSuccess)) = ⟨false, 0, Int32.ofNat number, none⟩ := by
  induction number with
  | zero => rfl
  | succ number ih =>
    have last : Breaker32.after (List.replicate (number + 1) .recordSuccess) =
        (Breaker32.after (List.replicate number .recordSuccess)).recordSuccess := by
      rw [List.replicate_succ', Breaker32.after, List.foldl_append]
      rfl
    rw [last, ih]
    simp [Breaker32.recordSuccess, Int32.ofNat_add]

example : (Breaker32.after (List.replicate (2 ^ 31) .recordSuccess)).successCount < 0 := by
  rw [successes_wrap]
  decide

end EventGateway.Kafka
