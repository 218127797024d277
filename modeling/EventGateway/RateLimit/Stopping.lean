import EventGateway.RateLimit.Racing

/-! `Stop`, called any number of times and at once. The flag under the mutex lets one call through to the channel. -/

namespace EventGateway.RateLimit
open Lib Lib.Calls

/-- One thing is still to come or has been: the limiter is running, one call is about to close the channel, or the
channel is closed. -/
structure Stoppable (racing : Racing) : Prop where
  once : racing.isRunning.toNat + racing.stops.countP (· = .closing) + racing.stopCleanup.toNat = 1
  running : racing.isRunning = true ↔ ∀ stop ∈ racing.stops, stop = .locking
  calm : racing.panicked = false
  ended : racing.sweeper = .ended → racing.stopCleanup = true

section Stopping
variable {config : Config} {racing after : Racing}

/-- Nothing but `Stop` changes what `Stop` reads, and the cleanup goroutine ends only when the channel is closed. -/
theorem stopping_frame {label : RacingStep} (stepped : racing.step config label = some after)
    (other : label ≠ .stop ∧ ∀ index, label ≠ .advanceStop index) :
    after.isRunning = racing.isRunning ∧ after.stops = racing.stops ∧ after.stopCleanup = racing.stopCleanup ∧
      after.panicked = racing.panicked ∧
      (after.sweeper = .ended → racing.sweeper = .ended ∨ racing.stopCleanup = true) := by
  cases label with
  | allow key =>
    cases stepped
    exact ⟨rfl, rfl, rfl, rfl, .inl⟩
  | advance index =>
    obtain ⟨call, found, rest⟩ := Option.bind_eq_some_iff.mp stepped
    obtain ⟨⟨moved, next⟩, performed, done⟩ := Option.bind_eq_some_iff.mp rest
    cases done
    cases perform_cases performed with
    | _ => exact ⟨rfl, rfl, rfl, rfl, .inl⟩
  | stop => exact absurd rfl other.1
  | advanceStop index => exact absurd rfl (other.2 index)
  | tick now =>
    simp only [Racing.step] at stepped
    split at stepped
    next =>
      cases stepped
      exact ⟨rfl, rfl, rfl, rfl, .inl⟩
    next => cases stepped
  | leave =>
    simp only [Racing.step, Racing.sweep] at stepped
    split at stepped
    next =>
      split at stepped
      next closed =>
        cases stepped
        exact ⟨rfl, rfl, rfl, rfl, fun _ => .inr closed⟩
      next => cases stepped
    next => cases stepped
  | inspect key =>
    simp only [Racing.step, Racing.sweep] at stepped
    split at stepped
    next =>
      split at stepped
      all_goals
        cases stepped
        exact ⟨rfl, rfl, rfl, rfl, fun ended => by simp_all⟩
    next => cases stepped
  | sweep | ranged | delete =>
    simp only [Racing.step, Racing.sweep] at stepped
    split at stepped
    all_goals
      cases stepped
      try exact ⟨rfl, rfl, rfl, rfl, fun ended => by simp_all⟩

theorem Stoppable.step {label : RacingStep} (stoppable : Stoppable racing)
    (stepped : racing.step config label = some after) : Stoppable after := by
  have once := stoppable.once
  by_cases other : label ≠ .stop ∧ ∀ index, label ≠ .advanceStop index
  · obtain ⟨running, stops, channel, calm, ended⟩ := stopping_frame stepped other
    refine ⟨?_, ?_, ?_, fun final => ?_⟩
    · rwa [running, stops, channel]
    · rw [running, stops]
      exact stoppable.running
    · rw [calm]
      exact stoppable.calm
    · rw [channel]
      exact (ended final).elim stoppable.ended id
  · cases label with
    | stop =>
      cases stepped
      refine ⟨?_, ?_, stoppable.calm, stoppable.ended⟩
      · rw [List.countP_append, List.countP_singleton]
        exact once
      · rw [stoppable.running]
        simp only [List.mem_append, List.mem_singleton]
        exact ⟨fun all stop member => member.elim (all stop) id, fun all stop member => all stop (.inl member)⟩
    | advanceStop index =>
      obtain ⟨call, found, rest⟩ := Option.bind_eq_some_iff.mp stepped
      obtain ⟨⟨moved, next⟩, performed, done⟩ := Option.bind_eq_some_iff.mp rest
      cases done
      have bound : index < racing.stops.length := (List.getElem?_eq_some_iff.mp found).1
      have counted := @countP_set_of_found _ _ _ _ next (· = .closing) found
      have left (past : next ≠ .locking) : ¬∀ stop ∈ racing.stops.set index next, stop = .locking :=
        fun all => past (all next (List.mem_set bound next))
      cases call with
      | locking =>
        simp only [Racing.performStop] at performed
        split at performed
        next running =>
          cases performed
          refine ⟨?_, ?_, stoppable.calm, stoppable.ended⟩
          · have moved : (racing.stops.set index .closing).countP (· = .closing) =
              racing.stops.countP (· = .closing) + 1 := counted
            rw [running, Bool.toNat_true] at once
            show false.toNat + (racing.stops.set index .closing).countP (· = .closing) + racing.stopCleanup.toNat = 1
            rw [moved, Bool.toNat_false]
            omega
          · exact ⟨fun still => (by cases still), fun all => absurd all (left (by decide))⟩
        next stopped =>
          cases performed
          refine ⟨?_, ?_, stoppable.calm, stoppable.ended⟩
          · have moved : (racing.stops.set index .returned).countP (· = .closing) =
              racing.stops.countP (· = .closing) := counted
            rw [moved]
            exact once
          · exact ⟨fun still => absurd still stopped, fun all => absurd all (left (by decide))⟩
      | closing =>
        have here : 0 < racing.stops.countP (· = .closing) :=
          List.countP_pos_iff.mpr ⟨.closing, List.mem_of_getElem? found, rfl⟩
        have unclosed : racing.stopCleanup = false := by
          cases channel : racing.stopCleanup with
          | false => rfl
          | true =>
            rw [channel] at once
            simp only [Bool.toNat_true] at once
            omega
        simp only [Racing.performStop, unclosed, Bool.false_eq_true, if_false] at performed
        cases performed
        have stopped : racing.isRunning ≠ true := by
          intro running
          rw [running, Bool.toNat_true] at once
          omega
        refine ⟨?_, ?_, stoppable.calm, fun _ => rfl⟩
        · have moved : (racing.stops.set index .returned).countP (· = .closing) + 1 =
            racing.stops.countP (· = .closing) := counted
          rw [unclosed, Bool.toNat_false] at once
          show racing.isRunning.toNat + (racing.stops.set index .returned).countP (· = .closing) + true.toNat = 1
          rw [Bool.toNat_true]
          omega
        · exact ⟨fun still => absurd still stopped, fun all => absurd all (left (by decide))⟩
      | returned => cases performed
    | _ => exact absurd ⟨by simp, by simp⟩ other

theorem stoppable_of_reachable (reached : (racingMachine config).Reachable racing) : Stoppable racing := by
  apply reached.invariant Stoppable
  · rintro racing ⟨clock, rfl⟩
    exact ⟨rfl, ⟨fun _ _ member => (by cases member), fun _ => rfl⟩, rfl, fun ended => (by cases ended)⟩
  · intro racing label after _ stoppable _ stepped
    exact stoppable.step stepped

end Stopping

/-- However many calls of `Stop` there are and however they are interleaved, the channel is never closed twice. It is
closed once a call has returned and none is still about to close it, and only then the cleanup goroutine ends. -/
theorem stops_close_once (config : Config) (racing : Racing) (reached : (racingMachine config).Reachable racing) :
    racing.panicked = false ∧
      (racing.stopCleanup = true ↔ .returned ∈ racing.stops ∧ .closing ∉ racing.stops) ∧
      (racing.sweeper = .ended → racing.stopCleanup = true) := by
  have stoppable := stoppable_of_reachable reached
  have once := stoppable.once
  refine ⟨stoppable.calm, ⟨fun closed => ?_, fun settled => ?_⟩, stoppable.ended⟩
  · rw [closed, Bool.toNat_true] at once
    have none : .closing ∉ racing.stops := by
      intro member
      have here : 0 < racing.stops.countP (· = .closing) := List.countP_pos_iff.mpr ⟨.closing, member, rfl⟩
      omega
    have stopped : racing.isRunning ≠ true := by
      intro running
      rw [running, Bool.toNat_true] at once
      omega
    rw [Ne, stoppable.running] at stopped
    push Not at stopped
    obtain ⟨stop, member, past⟩ := stopped
    cases stop with
    | locking => exact absurd rfl past
    | closing => exact absurd member none
    | returned => exact ⟨member, none⟩
  · have stopped : racing.isRunning ≠ true := by
      rw [Ne, stoppable.running]
      exact fun all => absurd (all _ settled.1) (by decide)
    have zero : racing.stops.countP (· = .closing) = 0 := by
      rw [List.countP_eq_zero]
      intro stop member is
      exact settled.2 (of_decide_eq_true is ▸ member)
    rw [zero, Bool.eq_false_of_not_eq_true stopped, Bool.toNat_false] at once
    cases channel : racing.stopCleanup with
    | true => rfl
    | false =>
      rw [channel] at once
      cases once

theorem stops_at_once : ∃ racing, (racingMachine onePerSecond).Reachable racing ∧
    racing.stops = [.returned, .returned] ∧ racing.sweeper = .ended ∧ racing.panicked = false ∧
    racing.stopCleanup = true := by
  obtain ⟨racing, reached, outcome⟩ := (racingMachine onePerSecond).reaches_of_run (fun _ _ => True) (.new 0)
    [.stop, .stop, .advanceStop 0, .advanceStop 1, .advanceStop 0, .leave]
    (fun racing => racing.stops = [.returned, .returned] ∧ racing.sweeper = .ended) ⟨0, rfl⟩ (by decide +kernel)
  obtain ⟨stops, ended⟩ := of_decide_eq_true outcome
  have once := stops_close_once onePerSecond racing reached
  exact ⟨racing, reached, stops, ended, once.1, once.2.2 ended⟩

end EventGateway.RateLimit
