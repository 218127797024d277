import EventGateway.Subscription.Commits

/-! How a consume loop ends. Once its context has ended it hands over one more event at most, and none once
`Unsubscribe` has waited for it; and it ends after a few operations of its own, whatever the others do. -/

namespace EventGateway.Subscription
open Lib Lib.Calls Lib.RWMutex

namespace Station

def mayHand : Station → Bool
  | .calling | .fetching _ | .decoding _ | .consulting _ | .filtering _ | .noting _ | .offering _ | .sending _ _ => true
  | _ => false

def waits : Station → Bool
  | .locking | .leaving => true
  | _ => false

def left : Station → Nat
  | .returned => 0
  | .refusing | .finishing => 1
  | .releasing => 2
  | .resetting => 3
  | .leaving => 4
  | .polling => 5
  | .launching | .committing _ | .reporting _ => 6
  | .adding | .sending _ _ | .failing => 7
  | .unlocking | .offering _ => 8
  | .marking | .noting _ => 9
  | .equipping | .filtering _ => 10
  | .testing | .consulting _ => 11
  | .locking | .decoding _ => 12
  | .fetching _ => 13
  | .calling => 14

theorem left_le (place : Station) : place.left ≤ 14 := by
  cases place with
  | _ => simp only [left]; omega

theorem counted_of_mayHand {place : Station} (may : place.mayHand = true) : place.counted = true := by
  cases place with
  | locking | testing | refusing | equipping | marking | unlocking | adding | returned => cases may
  | _ => rfl

end Station

section Operations
variable {consumer after : KafkaConsumer} {call : Nat} {place next : Station}

theorem Work.mayHand_of_done (worked : Work consumer call place after next)
    (own : place.owns = true → consumer.ctx = some call) (done : consumer.Done call) (may : next.mayHand = true) :
    place.mayHand = true := by
  cases worked with
  | poll ctx here ongoing =>
    cases here.symm.trans (own rfl)
    exact absurd done ongoing
  | panics => exact may
  | call | fetch | decode | consult | unfiltered | accept | note | offer => rfl
  | _ => cases may

/-- A call whose context has ended comes closer to its end by every operation, unless it panics. -/
theorem Work.lowers (worked : Work consumer call place after next)
    (own : place.owns = true → consumer.ctx = some call) (done : consumer.Done call) :
    next.left < place.left ∨ after.fault ≠ none := by
  cases worked with
  | poll ctx here ongoing =>
    cases here.symm.trans (own rfl)
    exact absurd done ongoing
  | panics => exact .inr nofun
  | _ =>
    left
    simp only [Station.left]
    omega

end Operations

namespace KafkaConsumer
variable {consumer after : KafkaConsumer} {call other index : Nat} {place next : Station} {errors : Bool}

def May (consumer : KafkaConsumer) (call : Nat) : Prop := ∃ place, consumer.At call place ∧ place.mayHand = true

def handedBy (consumer : KafkaConsumer) (call : Nat) : List (Nat × Envelope) :=
  consumer.record.handed.filter (fun entry => entry.1 = call)

theorem Sole.own (sole : Sole consumer) (here : consumer.At call place) (owns : place.owns = true) :
    consumer.ctx = some call :=
  sole.context call place here (.inr owns)

theorem Beside.may (beside : Beside consumer after) (may : after.May call) : consumer.May call := by
  obtain ⟨there, moved, may⟩ := may
  rcases beside.before call there moved with rfl | before
  · cases may
  · exact ⟨there, before, may⟩

/-- After its context has ended, a loop can only lose the chance to hand over an event. -/
theorem may_step (sole : Sole consumer) (done : consumer.Done call) {label : ConsumerStep}
    (stepped : consumer.step label = some after) (may : after.May call) : consumer.May call := by
  cases turn_of_step stepped with
  | work _ _ errors place next mid found worked =>
    obtain ⟨there, moved, may⟩ := may
    rcases at_work found worked moved with ⟨rfl, rfl⟩ | ⟨-, before⟩
    · exact ⟨place, ⟨errors, found⟩, worked.mayHand_of_done (sole.own ⟨errors, found⟩) done may⟩
    · exact ⟨there, before, may⟩
  | beside _ _ beside _ => exact beside.may may

theorem handed_step {label : ConsumerStep} (stepped : consumer.step label = some after) :
    after.handedBy call = consumer.handedBy call ∨
      consumer.May call ∧ ¬after.May call ∧ ∃ entry, after.handedBy call = consumer.handedBy call ++ [entry] := by
  cases turn_of_step stepped with
  | work mover _ errors place next mid found worked =>
    cases worked with
    | hand ctx envelope =>
      have grown : handedBy (put { consumer with record := consumer.record.hand mover envelope } mover
          (.subscribe errors (.committing envelope.message))) call =
          consumer.handedBy call ++ [(mover, envelope)].filter (fun entry => entry.1 = call) :=
        List.filter_append _ _
      by_cases mine : mover = call
      · subst mine
        refine .inr ⟨⟨_, ⟨errors, found⟩, rfl⟩, ?_, ?_⟩
        · rintro ⟨there, moved, may⟩
          rcases at_work found (.hand ctx envelope) moved with ⟨-, rfl⟩ | ⟨apart, -⟩
          · cases may
          · exact absurd rfl apart
        · rw [grown, List.filter_cons_of_pos (by simp)]
          exact ⟨_, rfl⟩
      · left
        rw [grown, List.filter_cons_of_neg (by simpa using mine), List.filter_nil, List.append_nil]
    | _ => exact .inl rfl
  | beside _ _ beside _ =>
    left
    unfold handedBy
    rw [beside.record]

theorem done_step {label : ConsumerStep} (stepped : consumer.step label = some after) (done : consumer.Done call) :
    after.Done call := by
  cases turn_of_step stepped with
  | work _ _ _ _ _ _ _ worked => exact (worked.done_iff call).mpr done
  | beside _ _ beside _ => exact beside.done call done

theorem handed_later (reached : consumerMachine.Reachable consumer) (done : consumer.Done call)
    (later : (consumerMachine.startingAt consumer).Reachable after) :
    consumerMachine.Reachable after ∧ after.Done call ∧
      (after.handedBy call = consumer.handedBy call ∧ (after.May call → consumer.May call) ∨
        consumer.May call ∧ ¬after.May call ∧ ∃ entry, after.handedBy call = consumer.handedBy call ++ [entry]) := by
  induction later with
  | start initial =>
    cases initial
    exact ⟨reached, done, .inl ⟨rfl, id⟩⟩
  | next _ _ stepped ih =>
    obtain ⟨before, ended, handed⟩ := ih
    have sole := Sole.of_reachable before
    refine ⟨.next before trivial stepped, done_step stepped ended, ?_⟩
    rcases handed with ⟨same, chance⟩ | ⟨may, spent, entry, grown⟩
    · rcases handed_step stepped with kept | ⟨may, spent, entry, grown⟩
      · exact .inl ⟨kept.trans same, fun may => chance (may_step sole ended stepped may)⟩
      · exact .inr ⟨chance may, spent, entry, by rw [grown, same]⟩
    · rcases handed_step stepped with kept | ⟨again, -⟩
      · exact .inr ⟨may, fun late => spent (may_step sole ended stepped late), entry, kept.trans grown⟩
      · exact absurd again spent

end KafkaConsumer

namespace StopAt

/-- The context that this call of `Unsubscribe` has cancelled. -/
def cancelled : StopAt → Option Nat
  | .unlocking ctx | .waiting ctx _ | .closing ctx _ | .returned (some (ctx, _)) => some ctx
  | _ => none

def waited : StopAt → Bool
  | .waiting _ waited | .closing _ waited | .returned (some (_, waited)) => waited
  | _ => false

end StopAt

namespace KafkaConsumer
variable {consumer after : KafkaConsumer} {call index : Nat}

/-- What `Unsubscribe` has achieved: the context has ended, and a loop that it has waited for hands over nothing more. -/
def Halted (consumer : KafkaConsumer) : Prop :=
  ∀ (index : Nat) (place : StopAt) (ctx : Nat), consumer.goroutines[index]? = some (.unsubscribe place) →
    place.cancelled = some ctx → consumer.Done ctx ∧ (place.waited = true → ¬consumer.May ctx)

theorem Sole.not_may (sole : Sole consumer) (zero : consumer.wg = 0) : ¬consumer.May call := by
  rintro ⟨place, here, may⟩
  exact absurd zero (sole.positive here (Station.counted_of_mayHand may)).ne'

theorem cancelled_closed (place : StopAt) : place.closed.cancelled = place.cancelled := by
  cases place with
  | _ => rfl

theorem Halt.achieves {place next : StopAt} {ctx : Nat} (sole : Sole consumer)
    (halted : Halt consumer index place after next)
    (before : place.cancelled = some ctx → consumer.Done ctx ∧ (place.waited = true → ¬consumer.May ctx))
    (cancelled : next.cancelled = some ctx) : after.Done ctx ∧ (next.waited = true → ¬consumer.May ctx) := by
  cases halted with
  | cancel other =>
    cases cancelled
    exact ⟨.inr (Function.update_self _ _ _), nofun⟩
  | passBy place _ none | resume place _ none =>
    rw [cancelled_closed] at cancelled
    exact ⟨(before cancelled).1, fun _ => sole.not_may none⟩
  | timeout => exact ⟨(before cancelled).1, nofun⟩
  | unlock | waited | close | pause | reused => exact before cancelled
  | _ => cases cancelled

theorem Halted.step (halted : Halted consumer) (sole : Sole consumer) {label : ConsumerStep}
    (stepped : consumer.step label = some after) : Halted after := by
  have kept {ctx : Nat} {waited : Bool} (before : consumer.Done ctx ∧ (waited = true → ¬consumer.May ctx)) :
      after.Done ctx ∧ (waited = true → ¬after.May ctx) :=
    ⟨done_step stepped before.1, fun stopped may => before.2 stopped (may_step sole before.1 stepped may)⟩
  intro index place ctx there cancelled
  cases (step_cases stepped).2 with
  | begin _ _ fresh _ =>
    rcases found_append there with ⟨-, rfl⟩ | before
    · cases fresh
      cases cancelled
    · exact kept (halted index place ctx before cancelled)
  | work _ _ _ _ _ _ found worked =>
    rcases found_set (worked.goroutines_eq ▸ found) there with ⟨-, own⟩ | ⟨-, before⟩
    · cases own
    · exact kept (halted index place ctx (worked.goroutines_eq ▸ before) cancelled)
  | halt _ _ before next mid found moved =>
    rcases found_set (moved.goroutines_eq ▸ found) there with ⟨-, own⟩ | ⟨-, waiting⟩
    · cases own
      have achieved := Halt.achieves sole moved (halted _ _ ctx found) cancelled
      exact ⟨achieved.1, fun stopped may => achieved.2 stopped ((Beside.halt found moved).may may)⟩
    · exact kept (halted index place ctx (moved.goroutines_eq ▸ waiting) cancelled)
  | refit _ _ _ _ _ found refitted =>
    rcases found_set (refitted.goroutines_eq ▸ found) there with ⟨-, own⟩ | ⟨-, before⟩
    · cases own
    · exact kept (halted index place ctx (refitted.goroutines_eq ▸ before) cancelled)
  | setSerializer | commitOffset | streamEnds | wake => exact kept (halted index place ctx there cancelled)

theorem halted_of_reachable (reached : consumerMachine.Reachable consumer) : Halted consumer := by
  refine reached.invariant Halted ?_ ?_
  · rintro _ rfl index place ctx there
    cases there
  · intro state label after reached halted _ stepped
    exact halted.step (Sole.of_reachable reached) stepped

end KafkaConsumer

/-- Whatever follows once a call of `Unsubscribe` has cancelled the context of a loop: the loop hands over one more event
at most, and none from the moment on at which `Unsubscribe` has seen that the `WaitGroup` is at zero, also if the loop
was not counted by it yet. -/
theorem unsubscribed_loop_stops {consumer after : KafkaConsumer} {index ctx : Nat} {place : StopAt}
    (reached : consumerMachine.Reachable consumer)
    (found : consumer.goroutines[index]? = some (.unsubscribe place)) (cancelled : place.cancelled = some ctx)
    (later : (consumerMachine.startingAt consumer).Reachable after) :
    ∃ more, after.handedBy ctx = consumer.handedBy ctx ++ more ∧ more.length ≤ 1 ∧ (place.waited = true → more = []) := by
  obtain ⟨done, stopped⟩ := KafkaConsumer.halted_of_reachable reached index place ctx found cancelled
  obtain ⟨-, -, ⟨same, -⟩ | ⟨may, -, entry, grown⟩⟩ := KafkaConsumer.handed_later reached done later
  · exact ⟨[], by rw [same, List.append_nil], Nat.zero_le _, fun _ => rfl⟩
  · exact ⟨[entry], grown, Nat.le_refl _, fun waited => absurd may (stopped waited)⟩

def conclusion : List ConsumerStep :=
  interruption ++ List.replicate 5 (.advance 0 .proceeds) ++ [.advance 2 .waits, .advance 2 .done, .advance 2 .proceeds]

/-- The call of `Unsubscribe` has returned, after it saw that the loop is done. -/
def KafkaConsumer.concluded (consumer : KafkaConsumer) : Bool :=
  match (consumer.goroutines[2]? : Option Goroutine) with
  | some (.unsubscribe place) => place = .returned (some (0, true))
  | _ => false

theorem concluded_loop_stops : ∃ consumer, consumerMachine.Reachable consumer ∧ (consumer.handedBy 0).length = 1 ∧
    ∀ after, (consumerMachine.startingAt consumer).Reachable after → after.handedBy 0 = consumer.handedBy 0 := by
  obtain ⟨consumer, reached, holds⟩ := Machine.reaches_of_run consumerMachine (fun _ _ => True) .new conclusion
    (fun consumer => consumer.concluded && (consumer.handedBy 0).length == 1) rfl (by decide +kernel)
  obtain ⟨concluded, once⟩ := Bool.and_eq_true_iff.mp holds
  refine ⟨consumer, reached, beq_iff_eq.mp once, ?_⟩
  intro after later
  unfold KafkaConsumer.concluded at concluded
  split at concluded
  next place found =>
    rw [of_decide_eq_true concluded] at found
    obtain ⟨more, grown, -, none⟩ := unsubscribed_loop_stops reached found rfl later
    rw [grown, none rfl, List.append_nil]
  next => cases concluded

/-- An operation of this call of `Subscribe` or of its loop. -/
def ConsumerStep.moves (call : Nat) : ConsumerStep → Bool
  | .advance index _ => index = call
  | _ => false

namespace KafkaConsumer
variable {consumer after : KafkaConsumer} {call index : Nat} {place : Station} {errors : Bool}

theorem step_isSome {choice : Choice} {goroutine : Goroutine} (alive : consumer.fault = none)
    (found : consumer.goroutines[index]? = some goroutine)
    (performs : (consumer.perform index choice goroutine).isSome = true) :
    (consumer.step (.advance index choice)).isSome = true := by
  obtain ⟨⟨mid, next⟩, performed⟩ := Option.isSome_iff_exists.mp performs
  rw [step_advance alive found performed, Option.isSome_some]

theorem holder_moves {goroutine : Goroutine} (alive : consumer.fault = none)
    (found : consumer.goroutines[index]? = some goroutine) (holds : goroutine.hold ≠ none) :
    (consumer.step (.advance index .proceeds)).isSome = true := by
  apply step_isSome alive found
  cases goroutine with
  | subscribe errors place =>
    cases place with
    | testing | refusing | equipping | marking | unlocking | resetting | releasing => rfl
    | _ => exact absurd rfl holds
  | unsubscribe place =>
    cases place with
    | testing | refusing | unlocking => rfl
    | cancelling =>
      simp only [perform, unsubscribe]
      cases consumer.ctx with
      | none | some => rfl
    | _ => exact absurd rfl holds
  | setFilter place =>
    cases place with
    | setting | unlocking => rfl
    | locking | returned => exact absurd rfl holds

/-- A call whose context has ended needs nobody but the holder of the lock: no message has to arrive, and nobody has to
receive what it sends. -/
theorem call_moves (sole : Sole consumer) (alive : consumer.fault = none) (here : consumer.At call place)
    (done : consumer.Done call) (ongoing : place ≠ .returned)
    (free : place.waits = true → CanLock Goroutine.hold consumer.goroutines) :
    ∃ choice, (choice = .proceeds ∨ choice = .done) ∧ (consumer.step (.advance call choice)).isSome = true := by
  have captured (ctx : Nat) := sole.captured call place ctx here
  obtain ⟨errors, found⟩ := here
  cases place with
  | returned => exact absurd rfl ongoing
  | locking | leaving =>
    refine ⟨.proceeds, .inl rfl, step_isSome alive found ?_⟩
    simp only [perform, consume, subscribe, finish, if_pos (free rfl)]
    rfl
  | fetching ctx | reporting ctx | sending ctx =>
    refine ⟨.done, .inr rfl, step_isSome alive found ?_⟩
    cases captured ctx rfl
    simp only [perform, consume, processing, if_pos done]
    rfl
  | finishing =>
    refine ⟨.proceeds, .inl rfl, step_isSome alive found ?_⟩
    simp only [perform, consume, finish]
    cases consumer.wg with
    | zero | succ => rfl
  | _ => exact ⟨.proceeds, .inl rfl, step_isSome alive found rfl⟩

theorem left_step (sole : Sole consumer) (here : consumer.At call place) (done : consumer.Done call)
    {label : ConsumerStep} (stepped : consumer.step label = some after) (alive : after.fault = none) :
    ∃ there, after.At call there ∧ (if label.moves call then 1 else 0) + there.left ≤ place.left := by
  cases turn_of_step stepped with
  | work mover choice errors before next mid found worked =>
    by_cases mine : call = mover
    · subst mine
      obtain ⟨errors', there⟩ := here
      cases found.symm.trans there
      refine ⟨next, (at_work_iff found worked).mpr (.inl ⟨rfl, rfl⟩), ?_⟩
      have own : (ConsumerStep.advance call choice).moves call = true := decide_eq_true rfl
      rw [if_pos own]
      rcases worked.lowers (sole.own ⟨errors, found⟩) done with lower | faulty
      · omega
      · exact absurd alive faulty
    · refine ⟨place, (at_work_iff found worked).mpr (.inr ⟨mine, here⟩), ?_⟩
      have other : (ConsumerStep.advance mover choice).moves call = false := decide_eq_false (Ne.symm mine)
      rw [other, if_neg Bool.false_ne_true, Nat.zero_add]
  | beside _ _ beside apart =>
    refine ⟨place, beside.stays call place here, ?_⟩
    have other : label.moves call = false := by
      cases label with
      | advance index choice => exact decide_eq_false fun same => apart call choice place here (same ▸ rfl)
      | _ => rfl
    rw [other, if_neg Bool.false_ne_true, Nat.zero_add]

theorem alive_of_run {labels : List ConsumerStep}
    (ran : consumerMachine.run (fun _ _ => True) consumer labels = some after) (alive : after.fault = none) :
    consumer.fault = none := by
  cases labels with
  | nil =>
    cases ran
    exact alive
  | cons label rest =>
    obtain ⟨next, -, stepped, -⟩ := Machine.run_cons ran
    exact (step_cases stepped).1

theorem left_later {labels : List ConsumerStep} (reached : consumerMachine.Reachable consumer)
    (here : consumer.At call place) (done : consumer.Done call)
    (ran : consumerMachine.run (fun _ _ => True) consumer labels = some after) (alive : after.fault = none) :
    consumerMachine.Reachable after ∧ after.Done call ∧
      ∃ there, after.At call there ∧ labels.countP (ConsumerStep.moves call) + there.left ≤ place.left := by
  induction labels generalizing consumer place with
  | nil =>
    cases ran
    exact ⟨reached, done, place, here, by rw [List.countP_nil, Nat.zero_add]⟩
  | cons label rest ih =>
    obtain ⟨next, -, stepped, later⟩ := Machine.run_cons ran
    obtain ⟨middle, there, first⟩ :=
      left_step (Sole.of_reachable reached) here done stepped (alive_of_run later alive)
    obtain ⟨reached', done', last, arrived, others⟩ :=
      ih (.next reached trivial stepped) there (done_step stepped done) later
    refine ⟨reached', done', last, arrived, ?_⟩
    rw [List.countP_cons]
    omega

end KafkaConsumer

/-- Whatever follows once the context of a call of `Subscribe` has ended, as long as nothing panics: the call and its
loop do fourteen more operations at most, and until they have returned they are not blocked, except by the lock, whose
holder is not blocked either. -/
theorem cancelled_call_ends {consumer after : KafkaConsumer} {call : Nat} {place : Station} {labels : List ConsumerStep}
    (reached : consumerMachine.Reachable consumer) (here : consumer.At call place) (done : consumer.Done call)
    (ran : consumerMachine.run (fun _ _ => True) consumer labels = some after) (alive : after.fault = none) :
    labels.countP (ConsumerStep.moves call) ≤ 14 ∧ ∃ there, after.At call there ∧ (there = .returned ∨
      (∃ choice, (choice = .proceeds ∨ choice = .done) ∧ (after.step (.advance call choice)).isSome = true) ∨
      there.waits = true ∧ ∃ (holder : Nat) (goroutine : Goroutine), after.goroutines[holder]? = some goroutine ∧
        goroutine.hold ≠ none ∧ (after.step (.advance holder .proceeds)).isSome = true) := by
  obtain ⟨reached', done', there, arrived, bounded⟩ := KafkaConsumer.left_later reached here done ran alive
  have most := place.left_le
  refine ⟨by omega, there, arrived, ?_⟩
  by_cases returned : there = .returned
  · exact .inl returned
  by_cases free : there.waits = true → CanLock Goroutine.hold after.goroutines
  · exact .inr (.inl (KafkaConsumer.call_moves (.of_reachable reached') alive arrived done' returned free))
  · obtain ⟨waits, locked⟩ := Classical.not_imp.mp free
    obtain ⟨goroutine, present, holds⟩ : ∃ goroutine ∈ after.goroutines, goroutine.hold ≠ none := by
      simpa [CanLock] using locked
    obtain ⟨holder, found⟩ := List.getElem?_of_mem present
    exact .inr (.inr ⟨waits, holder, goroutine, found, holds, KafkaConsumer.holder_moves alive found holds⟩)

def homeward : List ConsumerStep := List.replicate 5 (.advance 0 .proceeds)

theorem interrupted_call_ends : ∃ consumer after, consumerMachine.Reachable consumer ∧ consumer.Done 0 ∧
    consumerMachine.run (fun _ _ => True) consumer homeward = some after ∧ after.fault = none ∧
    homeward.countP (ConsumerStep.moves 0) ≤ 14 ∧ ∃ there, after.At 0 there := by
  obtain ⟨consumer, reached, holds⟩ := Machine.reaches_of_run consumerMachine (fun _ _ => True) .new interruption
    (fun consumer => decide (consumer.Done 0) && (consumer.goroutines[0]?).any Goroutine.subscribes &&
      (consumerMachine.run (fun _ _ => True) consumer homeward).any (fun after : KafkaConsumer => after.fault = none))
    rfl (by decide +kernel)
  simp only [Bool.and_eq_true, decide_eq_true_eq, Option.any_eq_true] at holds
  obtain ⟨⟨done, goroutine, found, subscribes⟩, after, ran, alive⟩ := holds
  cases goroutine with
  | subscribe errors place =>
    obtain ⟨bounded, there, arrived, -⟩ := cancelled_call_ends reached ⟨errors, found⟩ done ran alive
    exact ⟨consumer, after, reached, done, ran, alive, bounded, there, arrived⟩
  | unsubscribe | setFilter => cases subscribes

end EventGateway.Subscription
