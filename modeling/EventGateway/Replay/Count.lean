import EventGateway.Replay.EmptyFilter
import EventGateway.Replay.Order
import EventGateway.Replay.Pages

/-! How many events lie in a range of time, asked in four ways: of the list by `Count`, of the
index by `Query` and by `QueryWithPagination`, and of the stored events by `TimeRange.Contains`.
Only `Count` leaves the ends of the range out. -/

namespace EventGateway.Replay
open Lib Lib.StableSort InMemoryEventStore

def TimeRange.contains (range : TimeRange) (time : Time) : Bool :=
  !decide (time < range.start) && !decide (range.stop < time)

namespace InMemoryEventStore

def count (ies : InMemoryEventStore) (startTime endTime : Time) : Nat :=
  ies.events.foldl (fun count event =>
    if startTime < event.timestamp ∧ event.timestamp < endTime then count + 1 else count) 0

theorem count_eq (ies : InMemoryEventStore) (startTime endTime : Time) :
    ies.count startTime endTime =
      ies.events.countP (fun event => startTime < event.timestamp ∧ event.timestamp < endTime) := by
  have counted (events : List Event) (start : Nat) :
      events.foldl (fun count event =>
        if startTime < event.timestamp ∧ event.timestamp < endTime then count + 1 else count) start =
        start + events.countP (fun event => startTime < event.timestamp ∧ event.timestamp < endTime) := by
    induction events generalizing start with
    | nil => rfl
    | cons event rest ih =>
      rw [List.foldl_cons, ih, List.countP_cons]
      simp only [decide_eq_true_eq]
      split <;> omega
  rw [count, counted, Nat.zero_add]

end InMemoryEventStore

def NoCleanup (record : Recorded) : StoreOp → Prop
  | .store (some _) clock => ¬record.store.cleanupDue clock
  | _ => True

instance (record : Recorded) (op : StoreOp) : Decidable (NoCleanup record op) :=
  match op with
  | .store (some _) _ => inferInstanceAs (Decidable (¬_))
  | .store none _ => .isTrue trivial
  | .clear => .isTrue trivial

theorem Recorded.listed_of_reaches {record : Recorded} (reached : recordMachine.Reaches NoCleanup record) :
    record.store.events = record.indexed := by
  apply reached.invariant (fun record => record.store.events = record.indexed)
  · rintro _ ⟨maxRetention, now, rfl⟩
    rfl
  · intro record op after _ listed quiet stepped
    cases op with
    | clear =>
      cases stepped
      rfl
    | store event clock =>
      cases event with
      | none =>
        cases stepped
        exact listed
      | some event =>
        have early : ¬record.store.cleanupDue clock := quiet
        simp only [recordMachine, Recorded.step, if_neg early, store_kept record.store event early,
          Option.some.injEq] at stepped
        rw [← stepped]
        exact congrArg (· ++ [event]) listed

/-- All four answers are the same number. The loop on integers of 64 bits comes to the answer of `Query`. -/
structure CountAgrees (record : Recorded) (startTime endTime : Time) : Prop where
  query : ∀ (engine : RegexpEngine) (filter : EventFilter engine) (now : Time), filter.empty = true →
    ∃ events, record.store.query filter (some ⟨startTime, endTime⟩) now = .ok events ∧
      (∃ turns, ∀ more ≥ turns,
        record.store.queryWithin more startTime endTime (some (queryPredicate filter)) = some (.ok events)) ∧
      events.length = record.store.count startTime endTime
  pagination : ∀ pageSize pageNumber : Int64, 1 ≤ pageSize → 1 ≤ pageNumber →
    record.store.queryWithPagination startTime endTime none pageSize pageNumber ≠ .panicked →
      ∃ page total, record.store.queryWithPagination startTime endTime none pageSize pageNumber =
        .returned (.ok (page, total)) ∧ total.toInt = record.store.count startTime endTime
  contains : record.indexed.countP (fun event => TimeRange.contains ⟨startTime, endTime⟩ event.timestamp) =
    record.store.count startTime endTime

section Answers
variable {startTime endTime : Time}

theorem contains_eq (time : Time) :
    TimeRange.contains ⟨startTime, endTime⟩ time = (decide (startTime ≤ time) && decide (time ≤ endTime)) := by
  simp only [TimeRange.contains, ← decide_not, not_lt]

/-- A query that filters nothing out has as many events as the closed range contains. -/
theorem Recorded.length_query {record : Recorded} (held : record.Ordered) (ordered : startTime ≤ endTime)
    (startFits : FitsUnix startTime) (endFits : FitsUnix endTime) (filter : Option (Event → Bool))
    (all : ∀ event, filter.getD (fun _ => true) event = true) :
    ∃ events, record.store.queryByTime startTime endTime filter = .ok events ∧
      events.length =
        record.indexed.countP (fun event => TimeRange.contains ⟨startTime, endTime⟩ event.timestamp) := by
  refine ⟨_, Recorded.queryByTime_eq held ordered startFits endFits filter, ?_⟩
  rw [List.length_mergeSort, Recorded.selected, List.countP_eq_length_filter]
  simp only [all, Bool.and_true, contains_eq]

theorem paginate_total (events : List Event) (pageSize pageNumber : Int64) :
    paginate events pageSize pageNumber = .panicked ∨
      ∃ page, paginate events pageSize pageNumber = .returned (.ok (page, Int64.ofNat events.length)) := by
  dsimp only [paginate]
  split
  next => exact .inr ⟨[], rfl⟩
  next =>
    split
    next page _ => exact .inr ⟨page, rfl⟩
    next => exact .inl rfl

theorem countP_eq_iff {α : Type} {strict loose : α → Bool} (weaker : ∀ entry, strict entry = true → loose entry = true)
    (listed : List α) :
    listed.countP loose = listed.countP strict ↔ ∀ entry ∈ listed, loose entry = true → strict entry = true := by
  induction listed with
  | nil => simp
  | cons entry rest ih =>
    have fewer : rest.countP strict ≤ rest.countP loose := List.countP_mono_left (fun other _ => weaker other)
    rw [List.forall_mem_cons, ← ih, List.countP_cons, List.countP_cons]
    cases found : strict entry with
    | true => simp [weaker entry found]
    | false =>
      cases loose entry with
      | true =>
        simp only [if_true, Bool.false_eq_true, if_false, Nat.add_zero, imp_false, not_true_eq_false, false_and,
          iff_false]
        omega
      | false => simp

end Answers

/-- Before any cleanup, and for bounds whose `Unix()` does not wrap, the four answers agree exactly if no stored event
lies at either end of the range. -/
theorem countAgrees_iff (record : Recorded) (reached : recordMachine.Reaches NoCleanup record)
    (startTime endTime : Time) (ordered : startTime ≤ endTime) (startFits : FitsUnix startTime)
    (endFits : FitsUnix endTime) (fits : Addressable record.indexed) :
    CountAgrees record startTime endTime ↔
      ∀ event ∈ record.indexed, event.timestamp ≠ startTime ∧ event.timestamp ≠ endTime := by
  have held := Recorded.ordered_of_reachable reached.reachable
  have listed := Recorded.listed_of_reaches reached
  have ends : record.indexed.countP (fun event => TimeRange.contains ⟨startTime, endTime⟩ event.timestamp) =
      record.store.count startTime endTime ↔
        ∀ event ∈ record.indexed, event.timestamp ≠ startTime ∧ event.timestamp ≠ endTime := by
    rw [count_eq, listed, countP_eq_iff]
    · apply forall₂_congr
      intro event _
      simp only [contains_eq, Bool.and_eq_true, decide_eq_true_eq]
      constructor
      · intro closed
        exact ⟨fun same => (closed ⟨same.ge, same.trans_le ordered⟩).1.ne' same,
          fun same => (closed ⟨ordered.trans same.ge, same.le⟩).2.ne same⟩
      · rintro apart inside
        exact ⟨lt_of_le_of_ne inside.1 apart.1.symm, lt_of_le_of_ne inside.2 apart.2⟩
    · intro event inside
      simp only [contains_eq, Bool.and_eq_true, decide_eq_true_eq] at inside ⊢
      exact ⟨inside.1.le, inside.2.le⟩
  constructor
  · intro agrees
    exact ends.mp agrees.contains
  · intro apart
    have same := ends.mpr apart
    refine ⟨?_, ?_, same⟩
    · intro engine filter now empty
      obtain ⟨events, answered, length⟩ := Recorded.length_query held ordered startFits endFits
        (some (queryPredicate filter)) (fun event => by simp [queryPredicate, empty])
      exact ⟨events, answered, ⟨_, fun more enough =>
        (queryWithin_done record.store ordered enough).trans (congrArg some answered)⟩,
        length.trans same⟩
    · intro pageSize pageNumber large counted returns
      obtain ⟨events, answered, length⟩ := Recorded.length_query held ordered startFits endFits none
        (fun _ => rfl)
      have call := queryWithPagination_ok record.store large counted answered
      rcases paginate_total events pageSize pageNumber with panicked | ⟨page, returned⟩
      · exact absurd (call.trans panicked) returns
      · refine ⟨page, _, call.trans returned, ?_⟩
        have bound : events.length ≤ record.indexed.length := length ▸ List.countP_le_length
        unfold Addressable at fits
        rw [Int64.toInt_ofNat_of_lt (by omega), length, same]

def counted : List StoreOp :=
  [.store (some (e1 10000000000)) ⟨10000000000, 10000000000, 10000000000⟩,
   .store (some (e2 20000000000)) ⟨20000000000, 20000000000, 20000000000⟩]

theorem countAgrees_between : ∃ record, recordMachine.Reaches NoCleanup record ∧
    record.indexed = [.sample "e1" 10000000000, .sample "e2" 20000000000] ∧
    CountAgrees record 15000000000 25000000000 := by
  obtain ⟨record, reached, tested⟩ := Machine.reaches_of_run recordMachine NoCleanup
    ⟨newInMemoryEventStore day 0, []⟩ counted
    (fun record => record.indexed == [.sample "e1" 10000000000, .sample "e2" 20000000000]) ⟨day, 0, rfl⟩ (by decide)
  have indexed := eq_of_beq tested
  refine ⟨record, reached, indexed, ?_⟩
  apply (countAgrees_iff record reached 15000000000 25000000000 (by decide) (by decide) (by decide)
    (by rw [indexed]; decide)).mpr
  rw [indexed]
  decide

/-- A range from the first event to the second: the query returns both, and `Count` is zero. -/
theorem count_misses_ends : ∃ record, recordMachine.Reaches NoCleanup record ∧
    record.store.queryByTime 10000000000 20000000000 none =
      .ok [.sample "e1" 10000000000, .sample "e2" 20000000000] ∧
    record.store.count 10000000000 20000000000 = 0 ∧ ¬CountAgrees record 10000000000 20000000000 := by
  obtain ⟨record, reached, tested⟩ := Machine.reaches_of_run recordMachine NoCleanup
    ⟨newInMemoryEventStore day 0, []⟩ counted
    (fun record => (record.store.queryByTime 10000000000 20000000000 none).toOption ==
        some [.sample "e1" 10000000000, .sample "e2" 20000000000] &&
      record.store.count 10000000000 20000000000 == 0 &&
      record.indexed == [.sample "e1" 10000000000, .sample "e2" 20000000000]) ⟨day, 0, rfl⟩ (by decide)
  simp only [Bool.and_eq_true, beq_iff_eq] at tested
  obtain ⟨⟨queried, zero⟩, indexed⟩ := tested
  refine ⟨record, reached, ?_, zero, ?_⟩
  · cases answered : record.store.queryByTime 10000000000 20000000000 none with
    | error err => simp [answered, Except.toOption] at queried
    | ok events =>
      rw [answered] at queried
      rw [Option.some.inj queried]
  · intro agrees
    have same := agrees.contains
    rw [zero, indexed] at same
    exact absurd same (by decide)

end EventGateway.Replay
