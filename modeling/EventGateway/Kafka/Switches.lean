import EventGateway.Kafka.Quiescence

/-! What it takes to switch the circuit when the operations of many calls are interleaved. -/

namespace EventGateway.Kafka
open Lib Lib.Calls Lib.RWMutex

/-! ### What the switches cost -/

/-- What is known of the results of one kind: each switch of the circuit used up as many of them as the threshold,
and those that are counted now are used up by none. -/
structure Account (traffic : Traffic) (kind : Result) : Prop where
  counted : ∃ since : Nat, traffic.breaker.count kind = Int32.ofNat since ∧
    (.zeroing kind ∉ traffic.calls → circuitBreakerThreshold * traffic.switched kind + since ≤ traffic.recorded kind)
  reserved : .switching kind ∈ traffic.calls →
    circuitBreakerThreshold * (traffic.switched kind + 1) ≤ traffic.recorded kind
  settled : circuitBreakerThreshold * traffic.switched kind ≤ traffic.recorded kind

theorem le_of_threshold_le {since : Nat} (reached : Breaker32.circuitBreakerThreshold ≤ Int32.ofNat since) :
    circuitBreakerThreshold ≤ since := by
  have below : ∀ since < circuitBreakerThreshold, ¬Breaker32.circuitBreakerThreshold ≤ Int32.ofNat since := by decide
  by_contra few
  exact below since (not_le.mp few) reached

section Accounts
variable {traffic after : Traffic} {place next : Place} {index : Nat} {kind : Result}

/-- A step that records and switches nothing of this kind, and at most clears its counter. -/
theorem Account.keep (account : Account traffic kind) (found : traffic.calls[index]? = some place)
    (recorded : after.recorded kind = traffic.recorded kind) (switched : after.switched kind = traffic.switched kind)
    (count : after.breaker.count kind = 0 ∨ after.breaker.count kind = traffic.breaker.count kind ∧ place ≠ .zeroing kind)
    (calm : next ≠ .switching kind) : Account { after with calls := traffic.calls.set index next } kind where
  counted := by
    rcases count with zero | ⟨same, apart⟩
    · refine ⟨0, zero, fun _ => ?_⟩
      change circuitBreakerThreshold * after.switched kind + 0 ≤ after.recorded kind
      rw [recorded, switched]
      exact account.settled
    · obtain ⟨since, value, bound⟩ := account.counted
      refine ⟨since, same.trans value, fun none => ?_⟩
      change circuitBreakerThreshold * after.switched kind + since ≤ after.recorded kind
      rw [recorded, switched]
      exact bound (fun member => none (mem_set_of_ne found (Ne.symm apart) member))
  reserved := by
    intro member
    change circuitBreakerThreshold * (after.switched kind + 1) ≤ after.recorded kind
    rw [recorded, switched]
    rcases List.mem_or_eq_of_mem_set member with before | new
    · exact account.reserved before
    · exact absurd new.symm calm
  settled := by
    change circuitBreakerThreshold * after.switched kind ≤ after.recorded kind
    rw [recorded, switched]
    exact account.settled

theorem Account.add (account : Account traffic kind) (found : traffic.calls[index]? = some (.adding kind)) :
    Account { traffic with
      breaker := traffic.breaker.setCount (traffic.breaker.count kind + 1) kind
      calls := traffic.calls.set index (.storing kind)
      recorded := Function.update traffic.recorded kind (traffic.recorded kind + 1) } kind where
  counted := by
    obtain ⟨since, value, bound⟩ := account.counted
    refine ⟨since + 1, ?_, fun none => ?_⟩
    · rw [Breaker32.count_setCount, if_pos rfl, value, Int32.ofNat_add]
      rfl
    · have before := bound (fun member => none (mem_set_of_ne found (by simp) member))
      simp only [Function.update_self]
      omega
  reserved := by
    intro member
    have before := account.reserved ((List.mem_or_eq_of_mem_set member).resolve_right (by simp))
    simp only [Function.update_self]
    omega
  settled := by
    have before := account.settled
    simp only [Function.update_self]
    omega

/-- The call that loaded a counter at the threshold takes these results for itself. -/
theorem Account.reload (account : Account traffic kind) (exclusive : Exclusive Place.hold traffic.calls)
    (found : traffic.calls[index]? = some (.reloading kind))
    (reached : Breaker32.circuitBreakerThreshold ≤ traffic.breaker.count kind) :
    Account { traffic with calls := traffic.calls.set index (.switching kind) } kind := by
  have none : .zeroing kind ∉ traffic.calls := by
    intro member
    cases exclusive.outside found rfl member (by simp)
  obtain ⟨since, value, bound⟩ := account.counted
  have enough := le_of_threshold_le (value ▸ reached)
  refine ⟨⟨since, value, fun _ => bound none⟩, fun _ => ?_, account.settled⟩
  have before := bound none
  change circuitBreakerThreshold * (traffic.switched kind + 1) ≤ traffic.recorded kind
  rw [Nat.mul_add_one]
  omega

theorem Account.switch (account : Account traffic kind) (exclusive : Exclusive Place.hold traffic.calls)
    (found : traffic.calls[index]? = some (.switching kind)) :
    Account { traffic with
      breaker := { traffic.breaker with circuitOpen := kind.circuit }
      calls := traffic.calls.set index (.zeroing kind)
      switched := Function.update traffic.switched kind (traffic.switched kind + 1) } kind where
  counted := by
    obtain ⟨since, value, -⟩ := account.counted
    have bound : index < traffic.calls.length := (List.getElem?_eq_some_iff.mp found).1
    refine ⟨since, ?_, fun none => absurd (List.mem_set bound _) none⟩
    cases kind with
    | success | failure => exact value
  reserved := by
    intro member
    rcases elsewhere_of_mem_set found member with same | ⟨other, apart, there⟩
    · cases same
    · cases exclusive _ _ _ _ apart there found rfl
  settled := by
    have before := account.reserved (List.mem_of_getElem? found)
    simpa using before

theorem Account.advance (account : Account traffic kind) (exclusive : Exclusive Place.hold traffic.calls)
    (found : traffic.calls[index]? = some place) (operation : Operation traffic place after next) :
    Account { after with calls := traffic.calls.set index next } kind := by
  cases operation with
  | add result =>
    by_cases same : kind = result
    · subst same
      exact account.add found
    · refine account.keep found ?_ rfl ?_ ?_
      all_goals simp [same]
  | store result =>
    refine account.keep found rfl rfl ?_ ?_
    · by_cases same : kind = result.other
      · simp [same]
      · simp [same]
    · simp
  | reload result reached =>
    by_cases same : kind = result
    · subst same
      exact account.reload exclusive found reached
    · refine account.keep found rfl rfl ?_ ?_
      · exact .inr ⟨rfl, by simp⟩
      · simpa using Ne.symm same
  | switch result =>
    by_cases same : kind = result
    · subst same
      exact account.switch exclusive found
    · refine account.keep found rfl ?_ ?_ ?_
      · simp [same]
      · exact .inr ⟨by cases kind <;> rfl, by simp⟩
      · simp
  | zeroSuccesses | zeroFailures | resetFailures | resetSuccesses =>
    refine account.keep found rfl rfl ?_ ?_
    · cases kind with
      | success | failure => simp
    · simp
  | _ =>
    refine account.keep found rfl rfl ?_ ?_
    · exact .inr ⟨rfl, by simp⟩
    · simp

def Balanced (traffic : Traffic) : Prop :=
  traffic.switched .failure = traffic.switched .success + traffic.autoResets + traffic.breaker.circuitOpen.toNat

theorem balanced_advance (balanced : Balanced traffic) (orderly : Orderly traffic)
    (found : traffic.calls[index]? = some place) (operation : Operation traffic place after next) : Balanced after := by
  unfold Balanced at balanced ⊢
  cases operation with
  | switch result =>
    have differs := orderly.tested result (.inr (List.mem_of_getElem? found))
    cases result with
    | success =>
      have isOpen : traffic.breaker.circuitOpen = true := by simpa [Result.circuit] using differs
      simp [Result.circuit, isOpen] at balanced ⊢
      omega
    | failure =>
      have closed : traffic.breaker.circuitOpen = false := by simpa [Result.circuit] using differs
      simp [Result.circuit, closed] at balanced ⊢
      omega
  | reset => simpa [Nat.add_assoc] using balanced
  | add | store | zeroSuccesses | zeroFailures | resetFailures | resetSuccesses => simpa using balanced
  | _ => exact balanced

end Accounts

theorem accounts_of_reachable {traffic : Traffic} (reached : trafficMachine.Reachable traffic) :
    (∀ kind, Account traffic kind) ∧ Balanced traffic := by
  apply reached.invariant (fun traffic => (∀ kind, Account traffic kind) ∧ Balanced traffic)
  · rintro traffic ⟨clock, rfl⟩
    refine ⟨fun kind => ⟨⟨0, ?_, fun _ => le_rfl⟩, fun member => (by cases member), le_rfl⟩, rfl⟩
    cases kind with
    | success | failure => rfl
  · rintro traffic label after before ⟨accounts, balanced⟩ - stepped
    have orderly := orderly_of_reachable before
    have begun (place : Place) (calm : ∀ kind, place ≠ .switching kind) (kind : Result) :
        Account (traffic.begin place) kind := by
      obtain ⟨⟨since, value, bound⟩, reserved, settled⟩ := accounts kind
      refine ⟨⟨since, value, fun none => bound (fun member => none (List.mem_append_left _ member))⟩, ?_, settled⟩
      intro member
      rcases List.mem_append.mp member with old | new
      · exact reserved old
      · exact absurd (List.mem_singleton.mp new).symm (calm kind)
    cases Traffic.step_cases stepped with
    | record result => exact ⟨begun _ (by simp), balanced⟩
    | close => exact ⟨begun _ (by simp), balanced⟩
    | advance index place next moved found operation =>
      have taken : Balanced moved := balanced_advance balanced orderly found operation
      exact ⟨fun kind => (accounts kind).advance orderly.exclusive found operation, taken⟩
    | tick now late =>
      exact ⟨fun kind => ⟨(accounts kind).counted, (accounts kind).reserved, (accounts kind).settled⟩, balanced⟩
    | fire due armed late =>
      refine ⟨fun kind => ?_, balanced⟩
      have began := begun .firing (by simp) kind
      exact ⟨began.counted, began.reserved, began.settled⟩

/-- In every interleaving the circuit is opened at most once for every five failures that were recorded and closed
by successes at most once for every five successes, and it is closed between two openings. -/
theorem switches_are_paid (traffic : Traffic) (reached : trafficMachine.Reachable traffic) :
    (∀ kind, circuitBreakerThreshold * traffic.switched kind ≤ traffic.recorded kind) ∧
    traffic.switched .failure =
      traffic.switched .success + traffic.autoResets + traffic.breaker.circuitOpen.toNat := by
  obtain ⟨accounts, balanced⟩ := accounts_of_reachable reached
  exact ⟨fun kind => (accounts kind).settled, balanced⟩

theorem stampede_paid : ∃ traffic, trafficMachine.Reachable traffic ∧ traffic.switched .failure = 1 ∧
    circuitBreakerThreshold ≤ traffic.recorded .failure := by
  obtain ⟨traffic, reached, found⟩ := Machine.reaches_of_run trafficMachine (fun _ _ => True) (.new 0) stampede
    (fun traffic => decide (traffic.switched .failure = 1)) ⟨0, rfl⟩ (by decide)
  have once := of_decide_eq_true found
  have paid := (switches_are_paid traffic reached).1 .failure
  rw [once, Nat.mul_one] at paid
  exact ⟨traffic, reached, once, paid⟩

/-! ### Failures only -/

def Place.failing : Place → Bool
  | .adding result | .storing result | .rLocking result | .checking result | .loading result | .rUnlocking result _
  | .locking result | .rechecking result | .reloading result | .switching result | .zeroing result =>
      result = .failure
  | .stopping | .arming | .unlocking | .closing | .halting | .returned => true
  | _ => false

def Place.addsFailure (place : Place) : Bool := place = .adding .failure

/-- What is known while nothing but failures is recorded, since the failure count was the base with no failure
recorded: the count goes up with the failures until they open the circuit, which then stays open. -/
structure Tripping (base : Int) (begun : Nat) (traffic : Traffic) : Prop where
  failing : ∀ call ∈ traffic.calls, call.failing
  counted : traffic.breaker.circuitOpen = false →
    (traffic.breaker.count .failure).toInt = base + traffic.recorded .failure
  crossed : traffic.breaker.circuitOpen = true ∨ .switching .failure ∈ traffic.calls →
    circuitBreakerThreshold ≤ base + traffic.recorded .failure
  opened : .zeroing .failure ∈ traffic.calls → traffic.breaker.circuitOpen = true
  begun : traffic.recorded .failure + traffic.calls.countP Place.addsFailure = begun

section Tripping
variable {traffic after : Traffic} {place next : Place} {index : Nat} {base : Int} {begun : Nat}

theorem failing_next (operation : Operation traffic place after next) (failing : place.failing) : next.failing := by
  cases operation with
  | reset | resetFailures | resetSuccesses | lockFired => cases failing
  | stop | arm | unlock | lockClosing | halt | zeroSuccesses | zeroFailures | rUnlock | recheckDone | reloadBelow => rfl
  | _ => exact failing

theorem Tripping.set (tripping : Tripping base begun traffic) (found : traffic.calls[index]? = some place)
    (failing : next.failing)
    (recorded : after.recorded .failure = traffic.recorded .failure + place.addsFailure.toNat)
    (calm : next.addsFailure = false)
    (counted : after.breaker.circuitOpen = false →
      (after.breaker.count .failure).toInt = base + after.recorded .failure)
    (crossed : after.breaker.circuitOpen = true ∨ next = .switching .failure →
      circuitBreakerThreshold ≤ base + after.recorded .failure)
    (opened : traffic.breaker.circuitOpen = true ∨ next = .zeroing .failure → after.breaker.circuitOpen = true) :
    Tripping base begun { after with calls := traffic.calls.set index next } where
  failing := by
    intro call member
    rcases List.mem_or_eq_of_mem_set member with before | rfl
    · exact tripping.failing call before
    · exact failing
  counted := counted
  crossed := by
    rintro (isOpen | member)
    · exact crossed (.inl isOpen)
    · rcases List.mem_or_eq_of_mem_set member with before | rfl
      · have enough := tripping.crossed (.inr before)
        simp only [recorded]
        omega
      · exact crossed (.inr rfl)
  opened := by
    intro member
    rcases List.mem_or_eq_of_mem_set member with before | rfl
    · exact opened (.inl (tripping.opened before))
    · exact opened (.inr rfl)
  begun := by
    have moved := @countP_set_of_found _ _ _ _ next Place.addsFailure found
    have total := tripping.begun
    simp only [calm, Bool.false_eq_true, if_false] at moved
    simp only [recorded]
    cases adds : place.addsFailure with
    | true | false =>
      simp only [adds, Bool.false_eq_true, if_true, if_false, Bool.toNat_true, Bool.toNat_false] at moved ⊢
      omega

theorem Tripping.keep (tripping : Tripping base begun traffic) (found : traffic.calls[index]? = some place)
    (failing : next.failing) (circuit : after.breaker.circuitOpen = traffic.breaker.circuitOpen)
    (count : after.breaker.count .failure = traffic.breaker.count .failure)
    (recorded : after.recorded .failure = traffic.recorded .failure)
    (adds : place.addsFailure = false ∧ next.addsFailure = false)
    (calm : next ≠ .switching .failure ∧ next ≠ .zeroing .failure) :
    Tripping base begun { after with calls := traffic.calls.set index next } := by
  apply tripping.set found failing
  · simpa [adds.1] using recorded
  · exact adds.2
  · simpa [circuit, count, recorded] using tripping.counted
  · simpa [circuit, recorded, calm.1] using fun isOpen => tripping.crossed (.inl isOpen)
  · simp [circuit, calm.2]

theorem Tripping.counted_add (tripping : Tripping base begun traffic)
    (found : traffic.calls[index]? = some (.adding .failure)) (few : base + begun < 2 ^ 31)
    (closed : traffic.breaker.circuitOpen = false) :
    (traffic.breaker.count .failure + 1).toInt = base + (traffic.recorded .failure + 1 : Nat) := by
  have some : 0 < traffic.calls.countP Place.addsFailure :=
    List.countP_pos_iff.mpr ⟨_, List.mem_of_getElem? found, rfl⟩
  have total := tripping.begun
  have before := tripping.counted closed
  have least := (traffic.breaker.count .failure).le_toInt
  have unit : (1 : Int32).toInt = 1 := rfl
  rw [Int32.toInt_add, unit, Int.bmod_eq_of_le (by omega) (by omega)]
  omega

theorem Tripping.advance (tripping : Tripping base begun traffic) (orderly : Orderly traffic)
    (few : base + begun < 2 ^ 31) (found : traffic.calls[index]? = some place)
    (operation : Operation traffic place after next) :
    Tripping base begun { after with calls := traffic.calls.set index next } := by
  have member := List.mem_of_getElem? found
  have failing := tripping.failing place member
  have ahead := failing_next operation failing
  cases operation with
  | add result =>
    cases of_decide_eq_true failing
    refine tripping.set found ahead (by simp [Place.addsFailure]) rfl ?_ ?_ ?_
    · simpa using tripping.counted_add found few
    · intro reason
      have before := tripping.crossed (.inl (by simpa using reason))
      simp only [Function.update_self]
      omega
    · simp
  | store result =>
    cases of_decide_eq_true failing
    exact tripping.keep found ahead (by simp) (by simp [Result.other]) rfl ⟨rfl, rfl⟩ (by simp)
  | reload result reached =>
    cases of_decide_eq_true failing
    have closed : traffic.breaker.circuitOpen = false := by
      simpa [Result.circuit] using orderly.tested .failure (.inl member)
    have threshold : Breaker32.circuitBreakerThreshold.toInt = (circuitBreakerThreshold : Nat) := rfl
    rw [Int32.le_iff_toInt_le, threshold, tripping.counted closed] at reached
    exact tripping.set found ahead rfl rfl tripping.counted (fun _ => reached) (by simp)
  | switch result =>
    cases of_decide_eq_true failing
    exact tripping.set found ahead rfl rfl (fun closed => (by cases closed)) (fun _ => tripping.crossed (.inr member))
      (fun _ => rfl)
  | zeroFailures =>
    have isOpen := tripping.opened member
    refine tripping.set found ahead rfl rfl ?_ (fun _ => tripping.crossed (.inl isOpen)) (fun _ => ?_)
    · simp [isOpen]
    · simp [isOpen]
  | zeroSuccesses | reset | resetFailures | resetSuccesses | lockFired => cases failing
  | _ => exact tripping.keep found ahead rfl rfl rfl ⟨rfl, rfl⟩ (by simp)

theorem Tripping.begin (tripping : Tripping base begun traffic) (entry : Place) (failing : entry.failing)
    (calm : entry ≠ .switching .failure ∧ entry ≠ .zeroing .failure) :
    Tripping base (begun + entry.addsFailure.toNat) (traffic.begin entry) where
  failing := by
    intro call member
    rcases List.mem_append.mp member with before | new
    · exact tripping.failing call before
    · exact List.mem_singleton.mp new ▸ failing
  counted := tripping.counted
  crossed := by
    rintro reason
    apply tripping.crossed
    simpa [Traffic.begin, calm.1.symm] using reason
  opened := by
    intro member
    apply tripping.opened
    simpa [Traffic.begin, calm.2.symm] using member
  begun := by
    have total := tripping.begun
    simp only [Traffic.begin, List.countP_append, List.countP_singleton]
    cases adds : entry.addsFailure with
    | true | false =>
      simp
      omega

theorem Tripping.step {label : TrafficStep} (tripping : Tripping base begun traffic) (orderly : Orderly traffic)
    (few : base + begun < 2 ^ 31) (allowed : label ≠ .record .success ∧ label ≠ .fire)
    (stepped : traffic.step label = some after) :
    Tripping base (begun + if label = .record .failure then 1 else 0) after := by
  cases Traffic.step_cases stepped with
  | record result =>
    cases result with
    | success => exact absurd rfl allowed.1
    | failure => exact tripping.begin (.adding .failure) rfl (by simp)
  | close => exact tripping.begin .closing rfl (by simp)
  | advance index place next moved found operation => exact tripping.advance orderly few found operation
  | tick now late => exact ⟨tripping.failing, tripping.counted, tripping.crossed, tripping.opened, tripping.begun⟩
  | fire => exact absurd rfl allowed.2

theorem Tripping.run {labels : List TrafficStep} (tripping : Tripping base begun traffic) (orderly : Orderly traffic)
    (few : base + begun + labels.count (.record .failure) < 2 ^ 31)
    (allowed : ∀ label ∈ labels, label ≠ .record .success ∧ label ≠ .fire)
    (ran : trafficMachine.run (fun _ _ => True) traffic labels = some after) :
    Tripping base (begun + labels.count (.record .failure)) after := by
  induction labels generalizing traffic begun with
  | nil =>
    cases ran
    exact tripping
  | cons label rest ih =>
    obtain ⟨next, -, stepped, later⟩ := Machine.run_cons ran
    have split : (label :: rest).count (.record .failure) =
        rest.count (.record .failure) + if label = .record .failure then 1 else 0 := by
      rw [List.count_cons]
      simp
    rw [split] at few ⊢
    have moved := tripping.step orderly (by omega) (allowed label List.mem_cons_self) stepped
    generalize (if label = .record .failure then 1 else 0) = one at few moved ⊢
    have final := ih moved (orderly.step stepped) (by omega)
      (fun other member => allowed other (List.mem_cons_of_mem _ member)) later
    have same : begun + (rest.count (.record .failure) + one) = begun + one + rest.count (.record .failure) := by
      omega
    rwa [same]

end Tripping

/-- However the operations of failing calls are interleaved, when all of them have ended the circuit is open exactly
if the failures counted before and the calls make up the threshold. -/
theorem failures_trip_iff (traffic after : Traffic) (labels : List TrafficStep)
    (reached : trafficMachine.Reachable traffic) (quiet : traffic.Quiet)
    (closed : traffic.breaker.circuitOpen = false)
    (allowed : ∀ label ∈ labels, label ≠ .record .success ∧ label ≠ .fire)
    (few : labels.count (.record .failure) < 2 ^ 31 - circuitBreakerThreshold)
    (ran : trafficMachine.run (fun _ _ => True) traffic labels = some after) (ended : after.Quiet) :
    after.breaker.circuitOpen = true ↔ (circuitBreakerThreshold : Int) ≤
      traffic.breaker.failureCount.toInt + labels.count (.record .failure) := by
  have orderly := orderly_of_reachable reached
  have none (place : Place) (running : place ≠ .returned) : place ∉ traffic.calls :=
    fun member => running (quiet place member)
  have start : Tripping (traffic.breaker.failureCount.toInt - traffic.recorded .failure)
      (traffic.recorded .failure) traffic := by
    constructor
    · exact fun call member => quiet call member ▸ rfl
    · intro _
      change traffic.breaker.failureCount.toInt = _
      omega
    · rintro (isOpen | member)
      · cases closed.symm.trans isOpen
      · exact absurd member (none _ (by simp))
    · exact fun member => absurd member (none _ (by simp))
    · have idle : traffic.calls.countP Place.addsFailure = 0 :=
        List.countP_eq_zero.mpr (fun call member => quiet call member ▸ Bool.false_ne_true)
      omega
  have below : traffic.breaker.failureCount < Breaker32.circuitBreakerThreshold := by
    have differs : traffic.breaker.circuitOpen ≠ Result.failure.circuit := by rw [closed]; decide
    have below := orderly.below quiet differs
    exact below
  have threshold : Breaker32.circuitBreakerThreshold.toInt = 5 := rfl
  have number : circuitBreakerThreshold = 5 := rfl
  rw [Int32.lt_iff_toInt_lt, threshold] at below
  rw [number] at few ⊢
  have final := start.run orderly (by omega) allowed ran
  have idle : after.calls.countP Place.addsFailure = 0 :=
    List.countP_eq_zero.mpr (fun call member => ended call member ▸ Bool.false_ne_true)
  have total := final.begun
  constructor
  · intro isOpen
    have crossed := final.crossed (.inl isOpen)
    omega
  · intro enough
    by_contra closed
    rw [Bool.not_eq_true] at closed
    have orderly : Orderly after := orderly_of_reachable (Machine.Reaches.run labels reached ran)
    have differs : after.breaker.circuitOpen ≠ Result.failure.circuit := by rw [closed]; decide
    have below := orderly.below ended differs
    rw [Int32.lt_iff_toInt_lt, threshold, final.counted closed] at below
    omega

theorem stampede_trips : ∃ after, trafficMachine.run (fun _ _ => True) (.new 0) stampede = some after ∧
    after.breaker.circuitOpen = true := by
  have found : (trafficMachine.run (fun _ _ => True) (.new 0) stampede).map (fun after => decide after.Quiet) =
      some true := by decide
  obtain ⟨after, ran, quiet⟩ := Option.map_eq_some_iff.mp found
  refine ⟨after, ran, ?_⟩
  exact (failures_trip_iff (.new 0) after stampede (.start ⟨0, rfl⟩) (by decide) rfl (by decide) (by decide) ran
    (of_decide_eq_true quiet)).mpr (by decide)

end EventGateway.Kafka
