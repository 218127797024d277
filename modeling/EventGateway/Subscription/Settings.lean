import EventGateway.Subscription.Loops

/-! The consumer reads its serializer and its filter without the lock, the filter twice, and uses its `WaitGroup` again
with every call of `Subscribe`. It does not panic if the serializer is set before the first call of `Subscribe`, neither
of the two is ever set to nil after that, and calls of `Subscribe` and `Unsubscribe` do not overlap. -/

namespace EventGateway.Subscription
open Lib Lib.Calls Lib.RWMutex

/-- A call of `SetFilter` with nil that has not written the field yet. -/
def FilterAt.clears : FilterAt → Bool
  | .locking none | .setting none => true
  | _ => false

namespace Goroutine

/-- A call of `Subscribe` before its `wg.Add`. -/
def starting : Goroutine → Bool
  | .subscribe _ .locking | .subscribe _ .testing | .subscribe _ .refusing | .subscribe _ .equipping
  | .subscribe _ .marking | .subscribe _ .unlocking | .subscribe _ .adding => true
  | _ => false

def stopping : Goroutine → Bool
  | .unsubscribe (.returned _) => false
  | .unsubscribe _ => true
  | _ => false

theorem not_stopping {goroutine : Goroutine} (starts : goroutine.starting = true) : goroutine.stopping = false := by
  cases goroutine with
  | subscribe => rfl
  | unsubscribe | setFilter => cases starts

end Goroutine

section Operations
variable {consumer after : KafkaConsumer} {call index : Nat} {errors : Bool}

theorem Work.settings_eq {place next : Station} (worked : Work consumer call place after next) :
    after.serializer = consumer.serializer ∧ after.filter = consumer.filter := by
  cases worked with
  | _ => exact ⟨rfl, rfl⟩

theorem Work.filtering {place : Station} {envelope : Envelope}
    (worked : Work consumer call place after (.filtering envelope)) :
    consumer.filter.isSome = true ∨ place = .filtering envelope := by
  cases worked with
  | consult _ set => exact .inl set
  | panics => exact .inr rfl

theorem Work.waiters_eq {place next : Station} (worked : Work consumer call place after next) :
    after.waiters = consumer.waiters := by
  cases worked with
  | _ => rfl

theorem Work.starting {place next : Station} (worked : Work consumer call place after next)
    (starts : (Goroutine.subscribe errors next).starting = true) : (Goroutine.subscribe errors place).starting = true := by
  cases worked with
  | panics => exact starts
  | lock | refuse | pass | equip | mark | unlock => rfl
  | _ => cases starts

/-- The counter only changes when a call of `Subscribe` adds to it, or when it is not zero. -/
theorem Work.wg_cases {place next : Station} (worked : Work consumer call place after next) :
    after.wg = consumer.wg ∨ place = .adding ∨ consumer.wg ≠ 0 := by
  cases worked with
  | add => exact .inr (.inl rfl)
  | finish left counted => exact .inr (.inr (counted ▸ Nat.succ_ne_zero left))
  | _ => exact .inl rfl

theorem Halt.settings_eq {place next : StopAt} (halted : Halt consumer index place after next) :
    after.serializer = consumer.serializer ∧ after.filter = consumer.filter ∧
      (after.fault = consumer.fault ∨ after.fault = some .context ∨ after.fault = some .reuse) := by
  cases halted with
  | panics => exact ⟨rfl, rfl, .inr (.inl rfl)⟩
  | reused => exact ⟨rfl, rfl, .inr (.inr rfl)⟩
  | _ => exact ⟨rfl, rfl, .inl rfl⟩

/-- A step of a call of `Unsubscribe` that has returned is one of the goroutine that it has left in `wg.Wait()`. -/
theorem Halt.under_way {place next : StopAt} (halted : Halt consumer index place after next) :
    (Goroutine.unsubscribe place).stopping = true ∨ consumer.waiters ≠ ⟨[], [], []⟩ := by
  cases halted with
  | pause _ entering | passBy _ entering =>
    refine .inr fun none => ?_
    rw [none] at entering
    cases entering
  | resume _ awake | reused _ awake =>
    refine .inr fun none => ?_
    rw [none] at awake
    cases awake
  | _ => exact .inl rfl

theorem Refit.waiters_eq {place next : FilterAt} (refitted : Refit consumer place after next) :
    after.waiters = consumer.waiters := by
  cases refitted with
  | _ => rfl

theorem Refit.serializer_eq {place next : FilterAt} (refitted : Refit consumer place after next) :
    after.serializer = consumer.serializer := by
  cases refitted with
  | _ => rfl

theorem Refit.keeps {place next : FilterAt} (refitted : Refit consumer place after next) (keeps : place.clears = false) :
    next.clears = false ∧ (consumer.filter.isSome = true → after.filter.isSome = true) := by
  cases refitted with
  | lock filter =>
    cases filter with
    | none => cases keeps
    | some => exact ⟨rfl, id⟩
  | set filter =>
    cases filter with
    | none => cases keeps
    | some => exact ⟨rfl, fun _ => rfl⟩
  | unlock => exact ⟨rfl, id⟩

end Operations

namespace KafkaConsumer

/-- What the callers have to take care of: a serializer and a filter that are not nil, and that no call of `Subscribe`
begins while one of `Unsubscribe` is under way, the goroutine that it has left in `wg.Wait()` included, and no call of
`Unsubscribe` while one of `Subscribe` is. -/
def careful (consumer : KafkaConsumer) : ConsumerStep → Bool
  | .subscribe _ => consumer.serializer.isSome && decide (consumer.waiters = ⟨[], [], []⟩) &&
      consumer.goroutines.all (fun goroutine => !goroutine.stopping)
  | .unsubscribe => consumer.goroutines.all (fun goroutine => !goroutine.starting)
  | .setFilter filter => filter.isSome
  | .setSerializer serializer => serializer.isSome
  | _ => true

structure Equipped (consumer : KafkaConsumer) : Prop where
  serializer : ∀ call place, consumer.At call place → consumer.serializer.isSome = true
  filter : ∀ call envelope, consumer.At call (.filtering envelope) → consumer.filter.isSome = true
  pending : ∀ (index : Nat) (place : FilterAt), consumer.goroutines[index]? = some (.setFilter place) →
    place.clears = false
  sound : consumer.fault ≠ some .serializer ∧ consumer.fault ≠ some .filter

namespace Equipped
variable {consumer after : KafkaConsumer} {call index : Nat} {errors : Bool}

theorem new : Equipped KafkaConsumer.new where
  serializer := fun _ _ here => absurd here not_at_new
  filter := fun _ _ here => absurd here not_at_new
  pending := by
    intro index place found
    cases found
  sound := ⟨nofun, nofun⟩

theorem begin (equipped : Equipped consumer) {goroutine : Goroutine} (fresh : goroutine.Fresh)
    (serializer : goroutine.subscribes = true → consumer.serializer.isSome = true)
    (pending : ∀ place, goroutine = .setFilter place → place.clears = false) : Equipped (consumer.begin goroutine) where
  serializer := by
    rintro call place ⟨errors, there⟩
    rcases found_append there with ⟨-, rfl⟩ | before
    · exact serializer rfl
    · exact equipped.serializer call place ⟨errors, before⟩
  filter := by
    intro call envelope there
    rcases at_begin fresh there with impossible | before
    · cases impossible
    · exact equipped.filter call envelope before
  pending := by
    intro index place there
    rcases found_append there with ⟨-, own⟩ | before
    · exact pending place own.symm
    · exact equipped.pending index place before
  sound := equipped.sound

theorem work (equipped : Equipped consumer) {place next : Station}
    (found : consumer.goroutines[call]? = some (.subscribe errors place))
    (worked : Work consumer call place after next) : Equipped (after.put call (.subscribe errors next)) := by
  have here : consumer.At call place := ⟨errors, found⟩
  have same := worked.goroutines_eq
  obtain ⟨serializer, filter⟩ := worked.settings_eq
  exact {
    serializer := by
      intro other there moved
      show after.serializer.isSome = true
      rw [serializer]
      exact equipped.serializer call place here
    filter := by
      intro other envelope moved
      show after.filter.isSome = true
      rw [filter]
      rcases at_work found worked moved with ⟨rfl, rfl⟩ | ⟨-, before⟩
      · rcases worked.filtering with set | rfl
        · exact set
        · exact equipped.filter _ envelope here
      · exact equipped.filter other envelope before
    pending := by
      intro index there moved
      rcases found_set (same ▸ found) moved with ⟨-, own⟩ | ⟨-, before⟩
      · cases own
      · exact equipped.pending index there (same ▸ before)
    sound := by
      show after.fault ≠ some .serializer ∧ after.fault ≠ some .filter
      rcases worked.fault_cases with kept | ⟨fault, faulty, failed⟩
      · rw [kept]
        exact equipped.sound
      · rw [failed]
        cases faulty with
        | decode _ missing =>
          have set := equipped.serializer call _ here
          rw [missing] at set
          cases set
        | filter envelope missing =>
          have set := equipped.filter call envelope here
          rw [missing] at set
          cases set
        | _ => exact ⟨nofun, nofun⟩ }

theorem beside (equipped : Equipped consumer) {moved next : Goroutine}
    (found : consumer.goroutines[index]? = some moved) (same : after.goroutines = consumer.goroutines)
    (other : moved.subscribes = false) (other' : next.subscribes = false)
    (serializer : after.serializer = consumer.serializer)
    (filter : consumer.filter.isSome = true → after.filter.isSome = true)
    (pending : ∀ place, next = .setFilter place → place.clears = false)
    (sound : after.fault = consumer.fault ∨ after.fault = some .context ∨ after.fault = some .reuse) :
    Equipped (after.put index next) := by
  have before {call : Nat} {place : Station} (there : (after.put index next).At call place) : consumer.At call place :=
    (at_put_iff found same other other').mp there
  exact {
    serializer := by
      intro call place there
      show after.serializer.isSome = true
      rw [serializer]
      exact equipped.serializer call place (before there)
    filter := fun call envelope there => filter (equipped.filter call envelope (before there))
    pending := by
      intro place there moved
      rcases found_set (same ▸ found) moved with ⟨-, own⟩ | ⟨-, waiting⟩
      · exact pending there own.symm
      · exact equipped.pending place there (same ▸ waiting)
    sound := by
      show after.fault ≠ some .serializer ∧ after.fault ≠ some .filter
      rcases sound with kept | failed | failed
      · rw [kept]
        exact equipped.sound
      · rw [failed]
        exact ⟨nofun, nofun⟩
      · rw [failed]
        exact ⟨nofun, nofun⟩ }

theorem step (equipped : Equipped consumer) {label : ConsumerStep} (allowed : consumer.careful label = true)
    (stepped : consumer.step label = some after) : Equipped after := by
  obtain ⟨alive, moved⟩ := step_cases stepped
  have running : ¬consumer.fault ≠ none := not_not.mpr alive
  cases label with
  | subscribe errors =>
    cases (if_neg running).symm.trans stepped
    simp only [careful, Bool.and_eq_true] at allowed
    exact equipped.begin (.subscribe errors) (fun _ => allowed.1.1) nofun
  | unsubscribe =>
    cases (if_neg running).symm.trans stepped
    exact equipped.begin .unsubscribe nofun nofun
  | setFilter filter =>
    cases (if_neg running).symm.trans stepped
    refine equipped.begin (.setFilter filter) nofun ?_
    rintro _ ⟨⟩
    cases filter with
    | none => cases allowed
    | some => rfl
  | setSerializer serializer =>
    cases (if_neg running).symm.trans stepped
    exact ⟨fun _ _ _ => allowed, equipped.filter, equipped.pending, equipped.sound⟩
  | commitOffset | streamEnds =>
    cases (if_neg running).symm.trans stepped
    exact ⟨equipped.serializer, equipped.filter, equipped.pending, equipped.sound⟩
  | wake =>
    obtain ⟨-, same⟩ := Option.ite_none_right_eq_some.mp ((if_neg running).symm.trans stepped)
    cases same
    exact ⟨equipped.serializer, equipped.filter, equipped.pending, equipped.sound⟩
  | advance index choice =>
    cases moved with
    | begin _ _ _ call => exact absurd rfl (call index choice)
    | work _ _ _ _ _ _ found worked => exact equipped.work found worked
    | halt _ _ _ _ _ found halted =>
      obtain ⟨serializer, filter, fault⟩ := halted.settings_eq
      exact equipped.beside found halted.goroutines_eq rfl rfl serializer (fun set => filter ▸ set) nofun fault
    | refit _ _ _ _ _ found refitted =>
      obtain ⟨keeps, filter⟩ := refitted.keeps (equipped.pending index _ found)
      refine equipped.beside found refitted.goroutines_eq rfl rfl refitted.serializer_eq filter ?_
        (.inl refitted.frame.2.2.2)
      rintro _ ⟨⟩
      exact keeps

end Equipped

/-- Nobody is in `wg.Wait()` or in `Unsubscribe` while a call of `Subscribe` is on its way to its `wg.Add`, and the
`WaitGroup` is not in use while somebody has still to see that. -/
structure Orderly (consumer : KafkaConsumer) : Prop where
  separate : (∃ goroutine ∈ consumer.goroutines, goroutine.starting = true) →
    consumer.waiters = ⟨[], [], []⟩ ∧ ∀ goroutine ∈ consumer.goroutines, goroutine.stopping = false
  unused : consumer.waiters.awake ≠ [] → consumer.wg = 0 ∧ consumer.waiters.asleep = []
  sound : consumer.fault ≠ some .reuse

namespace Orderly
variable {consumer after : KafkaConsumer} {call index : Nat} {errors : Bool}

theorem new : Orderly KafkaConsumer.new where
  separate := by
    rintro ⟨goroutine, member, -⟩
    cases member
  unused := fun awake => absurd rfl awake
  sound := nofun

theorem begin (orderly : Orderly consumer) {goroutine : Goroutine}
    (starts : goroutine.starting = true →
      consumer.waiters = ⟨[], [], []⟩ ∧ ∀ other ∈ consumer.goroutines, other.stopping = false)
    (stops : goroutine.stopping = true → ∀ other ∈ consumer.goroutines, other.starting = false) :
    Orderly (consumer.begin goroutine) where
  separate := by
    rintro ⟨starter, member, starting⟩
    rcases List.mem_append.mp member with old | new
    · obtain ⟨none, stopped⟩ := orderly.separate ⟨starter, old, starting⟩
      refine ⟨none, fun other member => ?_⟩
      rcases List.mem_append.mp member with before | last
      · exact stopped other before
      · rw [List.mem_singleton.mp last]
        by_contra stopping
        rw [stops (Bool.not_eq_false _ ▸ stopping) starter old] at starting
        cases starting
    · cases List.mem_singleton.mp new
      obtain ⟨none, stopped⟩ := starts starting
      refine ⟨none, fun other member => ?_⟩
      rcases List.mem_append.mp member with before | last
      · exact stopped other before
      · rw [List.mem_singleton.mp last]
        exact Goroutine.not_stopping starting
  unused := orderly.unused
  sound := orderly.sound

theorem work (orderly : Orderly consumer) {place next : Station}
    (found : consumer.goroutines[call]? = some (.subscribe errors place))
    (worked : Work consumer call place after next) : Orderly (after.put call (.subscribe errors next)) := by
  have member := List.mem_of_getElem? found
  exact {
    separate := by
      rintro ⟨starter, moved, starting⟩
      show after.waiters = _ ∧ _
      rw [worked.waiters_eq]
      have before : ∃ goroutine ∈ consumer.goroutines, goroutine.starting = true := by
        rcases List.mem_or_eq_of_mem_set moved with old | rfl
        · exact ⟨starter, worked.goroutines_eq ▸ old, starting⟩
        · exact ⟨_, member, worked.starting starting⟩
      obtain ⟨none, stopped⟩ := orderly.separate before
      refine ⟨none, fun other there => ?_⟩
      rcases List.mem_or_eq_of_mem_set there with old | rfl
      · exact stopped other (worked.goroutines_eq ▸ old)
      · rfl
    unused := by
      show after.waiters.awake ≠ [] → after.wg = 0 ∧ after.waiters.asleep = []
      rw [worked.waiters_eq]
      intro awake
      obtain ⟨zero, none⟩ := orderly.unused awake
      rcases worked.wg_cases with same | rfl | counted
      · exact ⟨same.trans zero, none⟩
      · rw [(orderly.separate ⟨_, member, rfl⟩).1] at awake
        exact absurd rfl awake
      · exact absurd zero counted
    sound := by
      show after.fault ≠ some .reuse
      rcases worked.fault_cases with kept | ⟨fault, faulty, failed⟩
      · rw [kept]
        exact orderly.sound
      · rw [failed]
        cases faulty with
        | add waking =>
          have asleep := waking.2
          rw [(orderly.separate ⟨_, member, rfl⟩).1] at asleep
          exact absurd rfl asleep
        | _ => exact nofun }

theorem halt (orderly : Orderly consumer) {place next : StopAt}
    (found : consumer.goroutines[index]? = some (.unsubscribe place)) (halted : Halt consumer index place after next) :
    Orderly (after.put index (.unsubscribe next)) where
  separate := by
    rintro ⟨starter, moved, starting⟩
    rcases List.mem_or_eq_of_mem_set moved with old | rfl
    · obtain ⟨none, stopped⟩ := orderly.separate ⟨starter, halted.goroutines_eq ▸ old, starting⟩
      rcases halted.under_way with stopping | some
      · cases (stopped _ (List.mem_of_getElem? found)).symm.trans stopping
      · exact absurd none some
    · cases starting
  unused := by
    intro awake
    cases halted with
    | pause _ _ counted => exact absurd (orderly.unused awake).1 counted
    | resume _ woken => exact orderly.unused (List.ne_nil_of_mem woken)
    | _ => exact orderly.unused awake
  sound := by
    cases halted with
    | reused _ woken busy => exact absurd (orderly.unused (List.ne_nil_of_mem woken)) busy
    | panics => exact nofun
    | _ => exact orderly.sound

theorem refit (orderly : Orderly consumer) {place next : FilterAt} (refitted : Refit consumer place after next) :
    Orderly (after.put index (.setFilter next)) := by
  obtain ⟨-, -, wg, fault⟩ := refitted.frame
  exact {
    separate := by
      rintro ⟨starter, moved, starting⟩
      show after.waiters = _ ∧ _
      rw [refitted.waiters_eq]
      rcases List.mem_or_eq_of_mem_set moved with old | rfl
      · obtain ⟨none, stopped⟩ := orderly.separate ⟨starter, refitted.goroutines_eq ▸ old, starting⟩
        refine ⟨none, fun other there => ?_⟩
        rcases List.mem_or_eq_of_mem_set there with before | rfl
        · exact stopped other (refitted.goroutines_eq ▸ before)
        · rfl
      · cases starting
    unused := by
      show after.waiters.awake ≠ [] → after.wg = 0 ∧ after.waiters.asleep = []
      rw [refitted.waiters_eq, wg]
      exact orderly.unused
    sound := by
      show after.fault ≠ some .reuse
      rw [fault]
      exact orderly.sound }

theorem step (orderly : Orderly consumer) {label : ConsumerStep} (allowed : consumer.careful label = true)
    (stepped : consumer.step label = some after) : Orderly after := by
  obtain ⟨alive, moved⟩ := step_cases stepped
  have running : ¬consumer.fault ≠ none := not_not.mpr alive
  cases label with
  | subscribe errors =>
    cases (if_neg running).symm.trans stepped
    simp only [careful, Bool.and_eq_true, decide_eq_true_eq, List.all_eq_true, Bool.not_eq_true'] at allowed
    exact orderly.begin (fun _ => ⟨allowed.1.2, allowed.2⟩) nofun
  | unsubscribe =>
    cases (if_neg running).symm.trans stepped
    simp only [careful, List.all_eq_true, Bool.not_eq_true'] at allowed
    exact orderly.begin nofun (fun _ => allowed)
  | setFilter filter =>
    cases (if_neg running).symm.trans stepped
    exact orderly.begin nofun nofun
  | setSerializer | commitOffset | streamEnds =>
    cases (if_neg running).symm.trans stepped
    exact ⟨orderly.separate, orderly.unused, orderly.sound⟩
  | wake =>
    obtain ⟨waking, same⟩ := Option.ite_none_right_eq_some.mp ((if_neg running).symm.trans stepped)
    cases same
    refine ⟨fun starts => ?_, fun _ => ⟨waking.1, rfl⟩, orderly.sound⟩
    have asleep := waking.2
    rw [(orderly.separate starts).1] at asleep
    exact absurd rfl asleep
  | advance index choice =>
    cases moved with
    | begin _ _ _ call => exact absurd rfl (call index choice)
    | work _ _ _ _ _ _ found worked => exact orderly.work found worked
    | halt _ _ _ _ _ found halted => exact orderly.halt found halted
    | refit _ _ _ _ _ _ refitted => exact orderly.refit refitted

end Orderly
end KafkaConsumer

/-- However the calls and the loops interleave, no goroutine of the consumer panics, if the serializer is set when
`Subscribe` is called, nobody sets it or the filter to nil, and calls of `Subscribe` and `Unsubscribe` do not overlap. -/
theorem consumer_never_panics {consumer : KafkaConsumer}
    (reached : consumerMachine.Reaches (fun consumer label => consumer.careful label = true) consumer) :
    consumer.fault = none := by
  have kept : consumer.Equipped ∧ consumer.Orderly := by
    refine reached.invariant (fun consumer => consumer.Equipped ∧ consumer.Orderly) ?_ ?_
    · rintro _ rfl
      exact ⟨.new, .new⟩
    · intro state label after _ kept allowed stepped
      exact ⟨kept.1.step allowed stepped, kept.2.step allowed stepped⟩
  have sole := KafkaConsumer.Sole.of_reachable reached.reachable
  cases failed : consumer.fault with
  | none => rfl
  | some fault =>
    cases fault with
    | context => exact absurd failed sole.sound.1
    | waitGroup => exact absurd failed sole.sound.2
    | serializer => exact absurd failed kept.1.sound.1
    | filter => exact absurd failed kept.1.sound.2
    | reuse => exact absurd failed kept.2.sound

def replacement (filter : Option (Event → Bool)) : List ConsumerStep :=
  [.setSerializer jsonWiring.serializer, .setFilter (some fun _ => true)] ++ List.replicate 3 (.advance 0 .proceeds) ++
    [.subscribe false] ++ List.replicate 9 (.advance 1 .proceeds) ++
    [.advance 1 (.fetches (sampleFetch 1)), .advance 1 .proceeds, .advance 1 .proceeds] ++
    [.setFilter filter] ++ List.replicate 3 (.advance 2 .proceeds) ++ [.advance 1 .proceeds]

example : (consumerMachine.run (fun _ _ => True) .new (replacement none)).map KafkaConsumer.fault =
    some (some .filter) := by
  decide +kernel

/-- A call of `Unsubscribe` is woken and a call of `Subscribe` comes before it looks at the `WaitGroup` again. -/
def overlap : List ConsumerStep :=
  interruption ++ [.advance 2 .waits] ++ List.replicate 5 (.advance 0 .proceeds) ++ [.wake, .subscribe true] ++
    List.replicate 6 (.advance 3 .proceeds) ++ [.advance 2 .waits]

example : (consumerMachine.run (fun _ _ => True) .new overlap).map KafkaConsumer.fault = some (some .reuse) := by
  decide +kernel

theorem replaced_filter_never_panics : ∃ consumer,
    consumerMachine.Reaches (fun consumer label => consumer.careful label = true) consumer ∧
      consumer.record.skipped = [(1, (sampleFetch 1).message)] ∧ consumer.fault = none := by
  obtain ⟨consumer, reached, found⟩ := Machine.reaches_of_run consumerMachine
    (fun consumer label => consumer.careful label = true) .new
    (replacement (some fun _ => false))
    (fun consumer => decide (consumer.record.skipped = [(1, (sampleFetch 1).message)])) rfl (by decide +kernel)
  exact ⟨consumer, reached, of_decide_eq_true found, consumer_never_panics reached⟩

end EventGateway.Subscription
