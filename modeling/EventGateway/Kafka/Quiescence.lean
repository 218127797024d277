import EventGateway.Kafka.Interleaving

/-! What holds of the breaker whenever no call is in progress. While calls are in progress the counters and
the circuit need not fit together, but then some call is on its way that will put them right. -/

namespace EventGateway.Kafka
open Lib Lib.Calls Lib.RWMutex

def Place.clears : Place → Bool
  | .storing _ => true
  | _ => false

/-- The call will see to a counter of this kind that has reached the threshold: it has its own test of it
ahead, or it will clear it. -/
def Place.pending (kind : Result) : Place → Bool
  | .storing _ => true
  | .rLocking result | .checking result | .loading result | .rUnlocking result true | .locking result
  | .rechecking result | .reloading result | .switching result => result = kind
  | .resettingFailures => kind = .failure
  | _ => false

def Place.resets : Place → Bool
  | .zeroing .failure | .stopping | .arming | .firing | .resetting => true
  | _ => false

structure Orderly (traffic : Traffic) : Prop where
  exclusive : Exclusive Place.hold traffic.calls
  /-- Both counters are above zero only while a call is about to clear one of them. -/
  apart : (∀ kind, traffic.breaker.count kind ≠ 0) → ∃ call ∈ traffic.calls, call.clears
  /-- When a call switches the circuit, what the other kind has counted so far is seen to. -/
  guarded : ∀ result, .switching result ∈ traffic.calls ∧ traffic.breaker.count result.other ≠ 0 →
    ∃ call ∈ traffic.calls, call.pending result.other
  /-- A counter that would switch the circuit is seen to. -/
  answered : ∀ kind, traffic.breaker.circuitOpen ≠ kind.circuit ∧
    Breaker32.circuitBreakerThreshold ≤ traffic.breaker.count kind → ∃ call ∈ traffic.calls, call.pending kind
  /-- An open circuit will be closed again. -/
  timed : traffic.breaker.circuitOpen = true ∧ traffic.stopped = false ∧ traffic.breaker.resetTimer = none →
    ∃ call ∈ traffic.calls, call.resets
  soon : ∀ due, traffic.breaker.resetTimer = some due → due ≤ traffic.clock + resetDelay
  /-- A call that has tested the circuit under the write lock finds it so until it switches it. -/
  tested : ∀ result, .reloading result ∈ traffic.calls ∨ .switching result ∈ traffic.calls →
    traffic.breaker.circuitOpen ≠ result.circuit

section Steps
variable {traffic after : Traffic} {place next : Place} {index : Nat}

@[simp] theorem threshold_not_le_zero : ¬Breaker32.circuitBreakerThreshold ≤ 0 := by decide

theorem threshold_ne_zero {count : Int32} (reached : Breaker32.circuitBreakerThreshold ≤ count) : count ≠ 0 := by
  rintro rfl
  exact threshold_not_le_zero reached

theorem operation_beside (exclusive : Exclusive Place.hold traffic.calls) (found : traffic.calls[index]? = some place)
    (operation : Operation traffic place after next) {other : Nat} {writer : Place} (apart : other ≠ index)
    (there : traffic.calls[other]? = some writer) (writes : writer.hold = some .write) :
    ∃ result, place = .adding result ∨ place = .storing result := by
  have outside : place.hold = none := exclusive _ _ _ _ apart there found writes
  have member : writer ∈ traffic.calls := List.mem_of_getElem? there
  cases operation with
  | add result => exact ⟨result, .inl rfl⟩
  | store result => exact ⟨result, .inr rfl⟩
  | rLock result free => exact absurd writes (free writer member)
  | lock result free => cases (free writer member).symm.trans writes
  | lockFired free => cases (free writer member).symm.trans writes
  | lockClosing free => cases (free writer member).symm.trans writes
  | _ => cases outside

theorem circuit_beside (exclusive : Exclusive Place.hold traffic.calls) (found : traffic.calls[index]? = some place)
    (operation : Operation traffic place after next) {other : Nat} {writer : Place} (apart : other ≠ index)
    (there : traffic.calls[other]? = some writer) (writes : writer.hold = some .write) :
    after.breaker.circuitOpen = traffic.breaker.circuitOpen := by
  obtain ⟨result, rfl | rfl⟩ := operation_beside exclusive found operation apart there writes
  · cases operation with
    | add => simp
  · cases operation with
    | store => simp

theorem apart_advance (orderly : Orderly traffic) (found : traffic.calls[index]? = some place)
    (operation : Operation traffic place after next) :
    (∀ kind, after.breaker.count kind ≠ 0) → ∃ call ∈ traffic.calls.set index next, call.clears := by
  apply owed_set orderly.apart found
  intro both
  cases operation with
  | add result => exact .inl rfl
  | store result => exact absurd (by simp) (both result.other)
  | zeroSuccesses => exact absurd (by simp) (both .success)
  | zeroFailures => exact absurd (by simp) (both .failure)
  | resetFailures => exact absurd (by simp) (both .failure)
  | resetSuccesses => exact absurd (by simp) (both .success)
  | _ => exact .inr ⟨both, Bool.noConfusion⟩

/-- The call that reloads has a counter of its own kind that is not zero: if the other is not zero either, some
call is about to clear one of the two. -/
theorem guarded_advance (orderly : Orderly traffic) (found : traffic.calls[index]? = some place)
    (operation : Operation traffic place after next) (result : Result) :
    .switching result ∈ traffic.calls.set index next ∧ after.breaker.count result.other ≠ 0 →
      ∃ call ∈ traffic.calls.set index next, call.pending result.other := by
  rintro ⟨member, counted⟩
  rcases elsewhere_of_mem_set found member with rfl | ⟨other, apart, there⟩
  · cases operation with
    | reload result reached =>
      have both (kind : Result) : traffic.breaker.count kind ≠ 0 := by
        rcases kind.eq_or_eq_other result with rfl | rfl
        · exact threshold_ne_zero reached
        · exact counted
      obtain ⟨call, among, clears⟩ := orderly.apart both
      refine ⟨call, mem_set_of_ne found ?_ among, ?_⟩
      · rintro rfl
        cases clears
      · cases call with
        | storing => rfl
        | _ => cases clears
  · have before : .switching result ∈ traffic.calls := List.mem_of_getElem? there
    refine owed_set (orderly.guarded result) found (fun counted => ?_) counted
    obtain ⟨mover, rfl | rfl⟩ := operation_beside orderly.exclusive found operation apart there rfl
    · cases operation with
      | add => exact .inl rfl
    · cases operation with
      | store =>
        rcases mover.eq_or_eq_other result with rfl | rfl
        · simp at counted
        · refine .inr ⟨⟨before, ?_⟩, fun _ => by simp [Place.pending]⟩
          simpa [result.other.other_ne.symm] using counted

theorem answered_cleared (orderly : Orderly traffic) (found : traffic.calls[index]? = some place)
    {cleared kind : Result} (kept : cleared ≠ kind → place.pending kind → next.pending kind) :
    (traffic.breaker.setCount 0 cleared).circuitOpen ≠ kind.circuit ∧
        Breaker32.circuitBreakerThreshold ≤ (traffic.breaker.setCount 0 cleared).count kind →
      ∃ call ∈ traffic.calls.set index next, call.pending kind := by
  apply owed_set (orderly.answered kind) found
  rintro ⟨apart, reached⟩
  rw [Breaker32.count_setCount] at reached
  split at reached
  next => exact absurd reached threshold_not_le_zero
  next same => exact .inr ⟨⟨by simpa using apart, reached⟩, kept (Ne.symm same)⟩

theorem answered_advance (orderly : Orderly traffic) (found : traffic.calls[index]? = some place)
    (operation : Operation traffic place after next) (kind : Result) :
    after.breaker.circuitOpen ≠ kind.circuit ∧ Breaker32.circuitBreakerThreshold ≤ after.breaker.count kind →
      ∃ call ∈ traffic.calls.set index next, call.pending kind := by
  cases operation with
  | add => exact owed_set (orderly.answered kind) found (fun _ => .inl rfl)
  | store result =>
    refine answered_cleared orderly found (fun apart _ => ?_)
    rcases result.eq_or_eq_other kind with rfl | rfl
    · simp [Place.pending]
    · cases kind with
      | success | failure => exact absurd rfl apart
  | zeroSuccesses | zeroFailures | resetSuccesses => exact answered_cleared orderly found (fun _ => Bool.noConfusion)
  | resetFailures =>
    exact answered_cleared orderly found (fun apart pending => absurd (of_decide_eq_true pending).symm apart)
  | checkDone _ done | recheckDone _ done =>
    exact owed_set (orderly.answered kind) found
      (fun due => .inr ⟨due, fun pending => absurd (of_decide_eq_true pending ▸ done) due.1⟩)
  | loadBelow _ below | reloadBelow _ below =>
    exact owed_set (orderly.answered kind) found
      (fun due => .inr ⟨due, fun pending => absurd due.2 (of_decide_eq_true pending ▸ below)⟩)
  | switch result =>
    rintro ⟨apart, reached⟩
    have other : kind = result.other := by
      rcases kind.eq_or_eq_other result with rfl | same
      · exact absurd rfl apart
      · exact same
    subst other
    have due := And.intro (List.mem_of_getElem? found) (threshold_ne_zero reached)
    refine owed_set (orderly.guarded result) found (fun _ => .inr ⟨due, fun pending => ?_⟩) trivial
    exact absurd (of_decide_eq_true pending).symm result.other_ne
  | reset =>
    apply owed_set (orderly.answered kind) found
    rintro ⟨apart, -⟩
    cases kind with
    | success => exact absurd rfl apart
    | failure => exact .inl rfl
  | _ => exact owed_set (orderly.answered kind) found (fun due => .inr ⟨due, id⟩)

theorem timed_advance (orderly : Orderly traffic) (found : traffic.calls[index]? = some place)
    (operation : Operation traffic place after next) :
    after.breaker.circuitOpen = true ∧ after.stopped = false ∧ after.breaker.resetTimer = none →
      ∃ call ∈ traffic.calls.set index next, call.resets := by
  apply owed_set orderly.timed found
  intro due
  cases operation with
  | switch result =>
    cases result with
    | success => cases due.1
    | failure => exact .inl rfl
  | zeroFailures | stop | lockFired => exact .inl rfl
  | arm => cases due.2.2
  | reset => cases due.1
  | halt => cases due.2.1
  | add | store | zeroSuccesses | resetFailures | resetSuccesses =>
    exact .inr ⟨by simpa using due, Bool.noConfusion⟩
  | _ => exact .inr ⟨due, Bool.noConfusion⟩

theorem soon_advance (orderly : Orderly traffic) (operation : Operation traffic place after next) (due : Time)
    (armed : after.breaker.resetTimer = some due) : due ≤ after.clock + resetDelay := by
  cases operation with
  | arm =>
    cases armed
    exact le_rfl
  | stop | halt => cases armed
  | add | store | zeroSuccesses | zeroFailures | resetFailures | resetSuccesses =>
    exact orderly.soon due (by simpa using armed)
  | _ => exact orderly.soon due armed

theorem tested_advance (orderly : Orderly traffic) (found : traffic.calls[index]? = some place)
    (operation : Operation traffic place after next) (result : Result)
    (member : .reloading result ∈ traffic.calls.set index next ∨ .switching result ∈ traffic.calls.set index next) :
    after.breaker.circuitOpen ≠ result.circuit := by
  rcases member with reloading | switching
  · rcases elsewhere_of_mem_set found reloading with rfl | ⟨other, apart, there⟩
    · cases operation with
      | recheck _ differs => exact differs
    · rw [circuit_beside orderly.exclusive found operation apart there rfl]
      exact orderly.tested result (.inl (List.mem_of_getElem? there))
  · rcases elsewhere_of_mem_set found switching with rfl | ⟨other, apart, there⟩
    · cases operation with
      | reload => exact orderly.tested result (.inl (List.mem_of_getElem? found))
    · rw [circuit_beside orderly.exclusive found operation apart there rfl]
      exact orderly.tested result (.inr (List.mem_of_getElem? there))

theorem Orderly.advance (orderly : Orderly traffic) (found : traffic.calls[index]? = some place)
    (operation : Operation traffic place after next) :
    Orderly { after with calls := traffic.calls.set index next } := by
  have exclusive := orderly.exclusive.set found (Traffic.operation_change operation)
  have apart := apart_advance orderly found operation
  have guarded := guarded_advance orderly found operation
  have answered := answered_advance orderly found operation
  have timed := timed_advance orderly found operation
  have soon := soon_advance orderly operation
  have tested := tested_advance orderly found operation
  exact ⟨exclusive, apart, guarded, answered, timed, soon, tested⟩

theorem Orderly.begin (orderly : Orderly traffic) (outside : place.hold = none)
    (fresh : ∀ result, place ≠ .reloading result ∧ place ≠ .switching result) : Orderly (traffic.begin place) where
  exclusive := orderly.exclusive.append outside
  apart := owed_append orderly.apart .inr
  guarded := fun result => owed_append (orderly.guarded result) (fun due => .inr ⟨by
    rcases List.mem_append.mp due.1 with before | new
    · exact before
    · exact absurd (List.mem_singleton.mp new).symm (fresh result).2, due.2⟩)
  answered := fun kind => owed_append (orderly.answered kind) .inr
  timed := owed_append orderly.timed .inr
  soon := orderly.soon
  tested := by
    rintro result member
    apply orderly.tested result
    simpa [Traffic.begin, Ne.symm (fresh result).1, Ne.symm (fresh result).2] using member

end Steps

theorem orderly_new (clock : Time) : Orderly (.new clock) where
  exclusive := .nil
  apart := fun both => absurd rfl (both .success)
  guarded := fun _ due => by cases due.1
  answered := fun kind due => by
    cases kind with
    | success | failure => exact absurd due.2 threshold_not_le_zero
  timed := fun due => by cases due.1
  soon := fun _ armed => by cases armed
  tested := fun _ member => by simp [Traffic.new] at member

theorem Orderly.step {traffic after : Traffic} {label : TrafficStep} (orderly : Orderly traffic)
    (stepped : traffic.step label = some after) : Orderly after := by
  cases Traffic.step_cases stepped with
  | record result => exact orderly.begin rfl (fun _ => ⟨by simp, by simp⟩)
  | close => exact orderly.begin rfl (fun _ => ⟨by simp, by simp⟩)
  | advance index place next moved found operation => exact orderly.advance found operation
  | tick now late =>
    exact ⟨orderly.exclusive, orderly.apart, orderly.guarded, orderly.answered, orderly.timed,
      fun due armed => (orderly.soon due armed).trans (Int.add_le_add_right late _), orderly.tested⟩
  | fire due armed late =>
    have began : Orderly (traffic.begin .firing) := orderly.begin rfl (fun _ => ⟨by simp, by simp⟩)
    exact ⟨began.exclusive, began.apart, began.guarded, began.answered,
      owed_append orderly.timed (fun _ => .inl rfl), fun _ armed => (by cases armed), began.tested⟩

theorem orderly_of_reachable {traffic : Traffic} (reached : trafficMachine.Reachable traffic) : Orderly traffic := by
  apply reached.invariant Orderly
  · rintro traffic ⟨clock, rfl⟩
    exact orderly_new clock
  · intro traffic label after _ orderly _ stepped
    exact orderly.step stepped

theorem Traffic.Quiet.none_owes {traffic : Traffic} (quiet : traffic.Quiet) {owes : Place → Bool}
    (returned : owes .returned = false) : ¬∃ call ∈ traffic.calls, owes call := by
  rintro ⟨call, member, owing⟩
  rw [quiet call member, returned] at owing
  cases owing

/-- When no call is in progress, the counter that the circuit is waiting for is below the threshold. -/
theorem Orderly.below {traffic : Traffic} (orderly : Orderly traffic) (quiet : traffic.Quiet) {kind : Result}
    (differs : traffic.breaker.circuitOpen ≠ kind.circuit) :
    traffic.breaker.count kind < Breaker32.circuitBreakerThreshold := by
  by_contra most
  exact quiet.none_owes rfl (orderly.answered kind ⟨differs, Int32.not_lt.mp most⟩)

/-- However the operations of any number of calls were interleaved, when none is in progress the breaker is in a
state that calls one after the other could have left: one of the counters is zero, the one that the circuit is
waiting for is below the threshold, and an open circuit has its timer armed, unless `Close` stopped it. -/
theorem quiet_breaker_settled (traffic : Traffic) (reached : trafficMachine.Reachable traffic)
    (quiet : traffic.Quiet) :
    (traffic.breaker.failureCount = 0 ∨ traffic.breaker.successCount = 0) ∧
    (traffic.breaker.circuitOpen = false → traffic.breaker.failureCount < Breaker32.circuitBreakerThreshold) ∧
    (traffic.breaker.circuitOpen = true → traffic.breaker.successCount < Breaker32.circuitBreakerThreshold ∧
      (traffic.stopped = false →
        ∃ due, traffic.breaker.resetTimer = some due ∧ due ≤ traffic.clock + resetDelay)) := by
  have orderly := orderly_of_reachable reached
  refine ⟨?_, fun closed => ?_, fun isOpen => ⟨?_, fun running => ?_⟩⟩
  · by_contra both
    rw [not_or] at both
    refine quiet.none_owes rfl (orderly.apart (fun kind => ?_))
    cases kind with
    | success => exact both.2
    | failure => exact both.1
  · have differs : traffic.breaker.circuitOpen ≠ Result.failure.circuit := by rw [closed]; decide
    have below := orderly.below quiet differs
    exact below
  · have differs : traffic.breaker.circuitOpen ≠ Result.success.circuit := by rw [isOpen]; decide
    have below := orderly.below quiet differs
    exact below
  · cases armed : traffic.breaker.resetTimer with
    | none => exact absurd (orderly.timed ⟨isOpen, running, armed⟩) (quiet.none_owes rfl)
    | some due => exact ⟨due, rfl, orderly.soon due armed⟩

/-- Five calls fail together: all of them find the threshold reached under the read lock, the first to get the write
lock opens the circuit, and the others find it open. -/
def stampede : List TrafficStep :=
  List.replicate 5 (.record .failure) ++ (List.replicate 6 ((List.range 5).map TrafficStep.advance)).flatten ++
    List.replicate 8 (.advance 0) ++ [1, 2, 3, 4].flatMap (fun index => List.replicate 3 (.advance index))

theorem stampede_settled : ∃ traffic, trafficMachine.Reachable traffic ∧ traffic.Quiet ∧
    traffic.breaker.circuitOpen = true ∧ traffic.breaker.successCount < Breaker32.circuitBreakerThreshold := by
  obtain ⟨traffic, reached, found⟩ := Machine.reaches_of_run trafficMachine (fun _ _ => True) (.new 0) stampede
    (fun traffic => decide (traffic.Quiet ∧ traffic.breaker.circuitOpen = true)) ⟨0, rfl⟩ (by decide)
  obtain ⟨quiet, isOpen⟩ := of_decide_eq_true found
  exact ⟨traffic, reached, quiet, isOpen, ((quiet_breaker_settled traffic reached quiet).2.2 isOpen).1⟩

end EventGateway.Kafka
