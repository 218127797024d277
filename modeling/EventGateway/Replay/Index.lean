import EventGateway.Lib.Machine
import EventGateway.Lib.StableSort
import EventGateway.Replay.Store

/-! Runs of the event store under a clock that never goes back. The index and the
list drift apart only inside the minute of the latest cutoff; they agree in every run
whose cleanups find nothing expired in that minute. -/

namespace EventGateway.Replay
open Lib Lib.BucketIndex Lib.StableSort InMemoryEventStore

structure History where
  store : InMemoryEventStore
  clock : Time
  cutoff : Option Time

inductive StoreOp where
  | store (event : Option Event) (clock : StoreClock)
  | clear

namespace History

def step (history : History) : StoreOp → Option History
  | .store event clock =>
    if history.clock ≤ clock.since ∧ clock.since ≤ clock.cleanup ∧ clock.cleanup ≤ clock.stamp then
      let store := (history.store.store event clock).2
      match event with
      | none => some { history with store }
      | some _ =>
        if history.store.cleanupDue clock then
          some { store, clock := clock.stamp, cutoff := some (history.store.cutoffTime clock.cleanup) }
        else some { history with store, clock := clock.since }
    else none
  | .clear => some { history with store := history.store.clear }

end History

/-- All runs of `Store` and `Clear` from a new store, for any retention. -/
def storeMachine : Machine History StoreOp where
  init := fun history => ∃ maxRetention now,
    history = ⟨newInMemoryEventStore maxRetention now, now, none⟩
  step := History.step

theorem History.step_cases {history after : History} {op : StoreOp}
    (stepped : history.step op = some after) :
    (∃ clock, op = .store none clock ∧ after = history) ∨
    (∃ event clock, op = .store (some event) clock ∧ ¬history.store.cleanupDue clock ∧
      history.clock ≤ clock.since ∧
      after = { history with store := history.store.add event, clock := clock.since }) ∨
    (∃ event clock, op = .store (some event) clock ∧ history.store.cleanupDue clock ∧
      history.clock ≤ clock.cleanup ∧ clock.cleanup ≤ clock.stamp ∧
      after = {
        store := { (history.store.add event).cleanup clock.cleanup with lastCleanup := clock.stamp }
        clock := clock.stamp
        cutoff := some (history.store.cutoffTime clock.cleanup) }) ∨
    (op = .clear ∧ after = { history with store := history.store.clear }) := by
  cases op with
  | clear =>
    simp only [step, Option.some.injEq] at stepped
    exact .inr (.inr (.inr ⟨rfl, stepped.symm⟩))
  | store event clock =>
    simp only [step] at stepped
    split at stepped
    next ordered =>
      cases event with
      | none =>
        simp only [Option.some.injEq] at stepped
        exact .inl ⟨clock, rfl, stepped.symm⟩
      | some event =>
        by_cases due : history.store.cleanupDue clock
        · simp only [if_pos due, store_cleaned _ event due, Option.some.injEq] at stepped
          exact .inr (.inr (.inl ⟨event, clock, rfl, due, ordered.1.trans ordered.2.1,
            ordered.2.2, stepped.symm⟩))
        · simp only [if_neg due, store_kept _ event due, Option.some.injEq] at stepped
          exact .inr (.inl ⟨event, clock, rfl, due, ordered.1, stepped.symm⟩)
    next => cases stepped

structure History.Sound (history : History) : Prop where
  indexed : Indexed bucketOf Event.timestamp history.store.events history.store.bucket history.cutoff
  past : ∀ cutoff, history.cutoff = some cutoff → cutoff ≤ history.store.cutoffTime history.clock

theorem History.sound_init (maxRetention : Duration) (now : Time) :
    History.Sound ⟨newInMemoryEventStore maxRetention now, now, none⟩ where
  indexed := Indexed.empty bucketOf Event.timestamp none
  past := by simp

theorem History.sound_step {history after : History} {op : StoreOp} (held : history.Sound)
    (stepped : history.step op = some after) : after.Sound := by
  rcases step_cases stepped with ⟨clock, -, rfl⟩ | ⟨event, clock, -, -, ordered, rfl⟩ |
    ⟨event, clock, -, -, ordered, stamped, rfl⟩ | ⟨-, rfl⟩
  · exact held
  · constructor
    · rw [bucket_add]
      exact held.indexed.insert event
    · intro cutoff known
      have before := held.past cutoff known
      unfold cutoffTime at before ⊢
      exact before.trans (Int.add_le_add_right ordered _)
  · have added : Indexed bucketOf Event.timestamp (history.store.add event).events
        (history.store.add event).bucket history.cutoff := by
      rw [bucket_add]
      exact held.indexed.insert event
    constructor
    · have pruned := added.prune bucketOf_mono (history.store.cutoffTime clock.cleanup) (by
        intro cutoff known
        have before := held.past cutoff known
        unfold cutoffTime at before ⊢
        exact before.trans (Int.add_le_add_right ordered _))
      have buckets := bucket_cleanup (history.store.add event) clock.cleanup
      exact (congrArg (fun index => Indexed bucketOf Event.timestamp _ index _) buckets).mpr pruned
    · intro cutoff known
      cases known
      exact Int.add_le_add_right stamped _
  · constructor
    · exact Indexed.empty bucketOf Event.timestamp history.cutoff
    · exact held.past

theorem History.sound_of_reachable {history : History} (reached : storeMachine.Reachable history) :
    history.Sound := by
  apply reached.invariant History.Sound
  · rintro _ ⟨maxRetention, now, rfl⟩
    exact sound_init maxRetention now
  · intro _ _ _ _ held _ stepped
    exact sound_step held stepped

/-- In every reachable state each event sits in the bucket of its own minute, the list
is a sublist of the index bucket by bucket, and a copy that only the index holds is at or
before the cutoff of the latest cleanup and in the minute of that cutoff. -/
theorem timeBuckets_slack (history : History) (reached : storeMachine.Reachable history) :
    (∀ key, ∀ event ∈ history.store.bucket key, bucketOf event.timestamp = key) ∧
    (∀ key, (history.store.events.filter (fun event => bucketOf event.timestamp = key)).Sublist
      (history.store.bucket key)) ∧
    (∀ key event, history.store.events.count event < (history.store.bucket key).count event →
      ∃ cutoff, history.cutoff = some cutoff ∧ event.timestamp ≤ cutoff ∧ key = bucketOf cutoff) := by
  have held := (History.sound_of_reachable reached).indexed
  exact ⟨held.keyed, held.covers, held.slack⟩

def day : Duration := 86400 * 1000000000

/-- The second event arrives a day later; the cutoff of its cleanup falls ten seconds
after the first event and in the same minute. -/
def expiring : List StoreOp :=
  [.store (some (e1 10000000000)) ⟨10000000000, 10000000000, 10000000000⟩,
   .store (some (e2 86420000000000)) ⟨86420000000000, 86420000000000, 86420000000000⟩]

theorem timeBuckets_slack_expiring : ∃ history, storeMachine.Reachable history ∧
    history.store.events.count (.sample "e1" 10000000000) <
      (history.store.bucket 0).count (.sample "e1" 10000000000) ∧
    ∃ cutoff, history.cutoff = some cutoff ∧ (10000000000 : Time) ≤ cutoff ∧ 0 = bucketOf cutoff := by
  obtain ⟨history, reached, tested⟩ := Machine.reaches_of_run storeMachine
    (fun _ _ => True) ⟨newInMemoryEventStore day 0, 0, none⟩ expiring
    (fun history => history.store.events.count (.sample "e1" 10000000000) <
      (history.store.bucket 0).count (.sample "e1" 10000000000)) ⟨day, 0, rfl⟩ (by decide)
  have surplus := of_decide_eq_true tested
  exact ⟨history, reached, surplus, (timeBuckets_slack history reached).2.2 0 _ surplus⟩

def InMemoryEventStore.listed (ies : InMemoryEventStore) (startTime endTime : Time)
    (filter : Option (Event → Bool)) : List Event :=
  ies.events.filter (fun event => decide (startTime ≤ event.timestamp) &&
    decide (event.timestamp ≤ endTime) && filter.getD (fun _ => true) event)

/-- The index answers every range query as the list does, up to order, if `Unix()` of the bounds does not wrap. The
loop is the one on integers of 64 bits: enough turns of it give the answer. -/
def InMemoryEventStore.IndexAgrees (ies : InMemoryEventStore) : Prop :=
  ∀ startTime endTime, startTime ≤ endTime → FitsUnix startTime → FitsUnix endTime → ∀ filter, ∃ result,
    (∃ turns, ∀ more ≥ turns, ies.queryWithin more startTime endTime filter = some (.ok result)) ∧
      result.Perm (ies.listed startTime endTime filter)

def InMemoryEventStore.QueriedFound (ies : InMemoryEventStore) : Prop :=
  ∀ turns startTime endTime filter result,
    ies.queryWithin turns startTime endTime filter = some (.ok result) → ∀ event ∈ result,
      ∃ found, ies.getByID event.id = .ok found ∧ found.id = event.id

section Counter
variable {time startTime endTime : Time} {filter : Option (Event → Bool)} {bucket endBucket : Int64}

theorem toInt_div_sixty (seconds : Int64) : (seconds / 60).toInt = seconds.toInt.tdiv 60 := by
  have sixty : (60 : Int64).toInt = 60 := rfl
  have size : (seconds.toInt.tdiv 60).natAbs = seconds.toInt.natAbs / 60 := Int.natAbs_tdiv _ _
  have low := seconds.le_toInt
  have high := seconds.toInt_lt
  rw [Int64.toInt_div, sixty]
  exact Int.bmod_eq_of_le (by omega) (by omega)

theorem bucket64_lt (time : Time) : (bucket64 time).toInt < 2 ^ 58 := by
  rw [bucket64, toInt_div_sixty]
  generalize Int64.ofInt (unix time) = seconds
  have size : (seconds.toInt.tdiv 60).natAbs = seconds.toInt.natAbs / 60 := Int.natAbs_tdiv _ _
  have low := seconds.le_toInt
  have high := seconds.toInt_lt
  omega

theorem toInt_bucket64 (fits : FitsUnix time) : (bucket64 time).toInt = bucketOf time := by
  rw [bucket64, toInt_div_sixty, Int64.toInt_ofInt_of_le fits.1 fits.2, bucketOf]

theorem toInt_next (below : endBucket.toInt < 2 ^ 58) (inside : bucket ≤ endBucket) :
    (bucket + 1).toInt = bucket.toInt + 1 := by
  have one : (1 : Int64).toInt = 1 := rfl
  have low := bucket.le_toInt
  have high := Int64.le_iff_toInt_le.mp inside
  rw [Int64.toInt_add, one]
  exact Int.bmod_eq_of_le (by omega) (by omega)

/-- With enough turns the loop appends the selection of every bucket from the counter to the last one. -/
theorem scanFrom_done (ies : InMemoryEventStore) (below : endBucket.toInt < 2 ^ 58) {turns : Nat}
    (enough : (endBucket.toInt + 1 - bucket.toInt).toNat < turns) (result : List Event) :
    ies.scanFrom startTime endTime filter endBucket turns bucket result =
      some (result ++ (Int.range bucket.toInt (endBucket.toInt + 1)).flatMap (fun key =>
        (ies.bucket key).filter (selects startTime endTime filter))) := by
  induction turns generalizing bucket result with
  | zero => exact absurd enough (Nat.not_lt_zero _)
  | succ turns ih =>
    unfold scanFrom
    split
    next inside =>
      have next := toInt_next below inside
      have order := Int64.le_iff_toInt_le.mp inside
      rw [ih (by omega), next, range_cons (by omega : bucket.toInt < endBucket.toInt + 1), List.flatMap_cons]
      unfold InMemoryEventStore.bucket
      cases ies.timeBuckets bucket.toInt with
      | none => simp
      | some events => simp
    next outside =>
      have order := Int64.le_iff_toInt_le.not.mp outside
      rw [range_nil (by omega), List.flatMap_nil, List.append_nil]

theorem queryWithin_done (ies : InMemoryEventStore) (ordered : startTime ≤ endTime) {turns : Nat}
    (enough : ((bucket64 endTime).toInt + 1 - (bucket64 startTime).toInt).toNat < turns) :
    ies.queryWithin turns startTime endTime filter = some (ies.queryByTime startTime endTime filter) := by
  have done := @scanFrom_done startTime endTime filter (bucket64 startTime) (bucket64 endTime) ies
    (bucket64_lt endTime) turns enough []
  rw [queryWithin, if_neg (not_lt.mpr ordered), done, queryByTime_ok ies ordered]
  rfl

theorem mem_scanned (startFits : FitsUnix startTime) (endFits : FitsUnix endTime) (after : startTime ≤ time)
    (before : time ≤ endTime) :
    bucketOf time ∈ Int.range (bucket64 startTime).toInt ((bucket64 endTime).toInt + 1) := by
  rw [Int.mem_range_iff, toInt_bucket64 startFits, toInt_bucket64 endFits]
  exact ⟨bucketOf_mono after, Int.lt_add_one_iff.mpr (bucketOf_mono before)⟩

end Counter

theorem range_nodup (low high : Int) : (Int.range low high).Nodup := by
  unfold Int.range
  apply List.Nodup.map _ List.nodup_range
  intro first second same
  exact Int.ofNat.inj (Int.add_left_cancel same)

theorem selects_eq (startTime endTime : Time) (filter : Option (Event → Bool)) (event : Event) :
    selects startTime endTime filter event = (decide (startTime ≤ event.timestamp) &&
      decide (event.timestamp ≤ endTime) && filter.getD (fun _ => true) event) := by
  simp only [selects, Bool.not_or, ← decide_not, not_lt]
  cases filter <;> rfl

theorem indexAgrees_of_exact (ies : InMemoryEventStore)
    (exact : Exact bucketOf Event.timestamp ies.events ies.bucket) : ies.IndexAgrees := by
  intro startTime endTime ordered startFits endFits filter
  have answered := queryByTime_ok ies ordered filter
  refine ⟨_, ⟨_, fun more enough =>
    (queryWithin_done ies ordered enough).trans (congrArg some answered)⟩, ?_⟩
  have same : ies.listed startTime endTime filter =
      ies.events.filter (selects startTime endTime filter) :=
    List.filter_congr (fun event _ => (selects_eq startTime endTime filter event).symm)
  rw [same]
  apply exact.scan _ (range_nodup _ _)
  intro event _ chosen
  simp only [selects_eq, Bool.and_eq_true, decide_eq_true_eq] at chosen
  exact mem_scanned startFits endFits chosen.1.1 chosen.1.2

theorem mem_scanFrom {ies : InMemoryEventStore} {startTime endTime : Time} {filter : Option (Event → Bool)}
    {bucket endBucket : Int64} {turns : Nat} {result final : List Event}
    (scanned : ies.scanFrom startTime endTime filter endBucket turns bucket result = some final) :
    ∀ event ∈ final, event ∈ result ∨ ∃ key, event ∈ ies.bucket key := by
  induction turns generalizing bucket result with
  | zero => cases scanned
  | succ turns ih =>
    unfold scanFrom at scanned
    split at scanned
    next =>
      intro event member
      rcases ih scanned event member with grown | found
      · unfold InMemoryEventStore.bucket
        cases read : ies.timeBuckets bucket.toInt with
        | none => exact .inl (by simpa only [read] using grown)
        | some events =>
          simp only [read] at grown
          rcases List.mem_append.mp grown with old | new
          · exact .inl old
          · exact .inr ⟨bucket.toInt, (congrArg (event ∈ ·.getD []) read).mpr (List.mem_filter.mp new).1⟩
      · exact .inr found
    next =>
      cases scanned
      exact fun event member => .inl member

theorem queriedFound_of_exact (ies : InMemoryEventStore)
    (exact : Exact bucketOf Event.timestamp ies.events ies.bucket) : ies.QueriedFound := by
  intro turns startTime endTime filter result answered event member
  apply getByID_found
  unfold queryWithin at answered
  split at answered
  next => cases answered
  next =>
    obtain ⟨scanned, ended, same⟩ := Option.map_eq_some_iff.mp answered
    cases same
    rcases mem_scanFrom ended event member with none | ⟨key, found⟩
    · cases none
    · rw [exact key] at found
      exact (List.mem_filter.mp found).1

/-- The step does not clean up, or the minute of the cutoff holds nothing expired, the
event being stored included. No `Unix()` wraps on the way. -/
def WholeMinutes (history : History) : StoreOp → Prop
  | .store (some event) clock => FitsUnix event.timestamp ∧ (history.store.cleanupDue clock →
      FitsUnix (history.store.cutoffTime clock.cleanup) ∧
      ∀ other ∈ (history.store.add event).bucket
          (bucketOf (history.store.cutoffTime clock.cleanup)),
        history.store.cutoffTime clock.cleanup < other.timestamp)
  | _ => True

instance (history : History) (op : StoreOp) : Decidable (WholeMinutes history op) :=
  match op with
  | .store (some _) _ => inferInstanceAs (Decidable (_ ∧ (_ → _ ∧ _)))
  | .store none _ => .isTrue trivial
  | .clear => .isTrue trivial

theorem History.exact_step {history after : History} {op : StoreOp}
    (held : Exact bucketOf Event.timestamp history.store.events history.store.bucket)
    (whole : WholeMinutes history op) (stepped : history.step op = some after) :
    Exact bucketOf Event.timestamp after.store.events after.store.bucket := by
  rcases step_cases stepped with ⟨clock, -, rfl⟩ | ⟨event, clock, -, -, -, rfl⟩ |
    ⟨event, clock, rfl, due, -, -, rfl⟩ | ⟨-, rfl⟩
  · exact held
  · rw [bucket_add]
    exact held.insert event
  · have added : Exact bucketOf Event.timestamp (history.store.add event).events
        (history.store.add event).bucket := by
      rw [bucket_add]
      exact held.insert event
    have pruned := added.prune bucketOf_mono (history.store.cutoffTime clock.cleanup) (whole.2 due).2
    have buckets := bucket_cleanup (history.store.add event) clock.cleanup
    exact (congrArg (Exact bucketOf Event.timestamp _) buckets).mpr pruned
  · intro key
    rfl

theorem History.exact_of_reaches {history : History}
    (reached : storeMachine.Reaches WholeMinutes history) :
    Exact bucketOf Event.timestamp history.store.events history.store.bucket := by
  apply reached.invariant
    (fun history => Exact bucketOf Event.timestamp history.store.events history.store.bucket)
  · rintro _ ⟨maxRetention, now, rfl⟩ key
    rfl
  · intro _ _ _ _ held whole stepped
    exact exact_step held whole stepped

/-- In every run whose cleanups leave no expired event in the minute of their cutoff,
the index agrees with the list and everything queried is found by its ID. -/
theorem index_agrees_of_wholeMinutes (history : History)
    (reached : storeMachine.Reaches WholeMinutes history) :
    history.store.IndexAgrees ∧ history.store.QueriedFound := by
  have exact := History.exact_of_reaches reached
  exact ⟨indexAgrees_of_exact history.store exact, queriedFound_of_exact history.store exact⟩

def spread : List StoreOp :=
  [.store (some (e1 10000000000)) ⟨10000000000, 10000000000, 10000000000⟩,
   .store (some (e2 86520000000000)) ⟨86520000000000, 86520000000000, 86520000000000⟩]

theorem index_agrees_spread : ∃ history, storeMachine.Reaches WholeMinutes history ∧
    history.cutoff = some 120000000000 ∧
    history.store.IndexAgrees ∧ history.store.QueriedFound := by
  obtain ⟨history, reached, tested⟩ := Machine.reaches_of_run storeMachine
    WholeMinutes ⟨newInMemoryEventStore day 0, 0, none⟩ spread
    (fun history => history.cutoff = some 120000000000) ⟨day, 0, rfl⟩ (by decide)
  exact ⟨history, reached, of_decide_eq_true tested, index_agrees_of_wholeMinutes history reached⟩

/-- After the cleanup the index still returns the expired event, which the list and
`GetByID` no longer have. -/
theorem index_disagrees_after_cleanup : ∃ history, storeMachine.Reachable history ∧
    ¬history.store.IndexAgrees ∧ ¬history.store.QueriedFound := by
  obtain ⟨history, reached, tested⟩ := Machine.reaches_of_run storeMachine
    (fun _ _ => True) ⟨newInMemoryEventStore day 0, 0, none⟩ expiring
    (fun history =>
      ((history.store.queryWithin 2 0 15000000000 none).bind Except.toOption) == some [.sample "e1" 10000000000] &&
      history.store.events == [.sample "e2" 86420000000000] &&
      (history.store.getByID "e1").toOption == none) ⟨day, 0, rfl⟩ (by decide)
  simp only [Bool.and_eq_true, beq_iff_eq] at tested
  obtain ⟨⟨scanned, kept⟩, missing⟩ := tested
  have answered : history.store.queryWithin 2 0 15000000000 none = some (.ok [.sample "e1" 10000000000]) := by
    obtain ⟨answer, ran, passed⟩ := Option.bind_eq_some_iff.mp scanned
    cases answer with
    | error => cases passed
    | ok events =>
      cases passed
      exact ran
  refine ⟨history, reached, ?_, ?_⟩
  · intro agrees
    obtain ⟨result, ⟨turns, settled⟩, perm⟩ := agrees 0 15000000000 (by decide) (by decide) (by decide) none
    have expired : history.store.listed 0 15000000000 none = [] := by
      rw [InMemoryEventStore.listed, kept]
      decide
    have once := @queryWithin_done 0 15000000000 none history.store (by decide) 2 (by decide)
    have again := @queryWithin_done 0 15000000000 none history.store (by decide) (turns + 2)
      (Nat.lt_of_lt_of_le (by decide : _ < 2) (Nat.le_add_left 2 turns))
    cases (settled (turns + 2) (Nat.le_add_right turns 2)).symm.trans (again.trans (once.symm.trans answered))
    rw [expired] at perm
    exact absurd perm.length_eq (by decide)
  · intro found
    obtain ⟨event, fetched, -⟩ := found _ _ _ _ _ answered _ (List.mem_singleton_self _)
    rw [show (Event.sample "e1" 10000000000).id = "e1" from rfl] at fetched
    simp [fetched, Except.toOption] at missing

end EventGateway.Replay
