import EventGateway.Replay.Index

/-! The order of a query's result. Beside the store runs a list of the events that the index
holds, in the order in which they were stored; the scan of the buckets is the stable sort of
its selection by minute, unless `Unix()` of a bound wraps. -/

namespace EventGateway.Replay
open Lib Lib.BucketIndex Lib.StableSort InMemoryEventStore

structure Recorded where
  store : InMemoryEventStore
  indexed : List Event

namespace Recorded

def step (record : Recorded) : StoreOp → Option Recorded
  | .store none clock => some { record with store := (record.store.store none clock).2 }
  | .store (some event) clock =>
      let store := (record.store.store (some event) clock).2
      let indexed := record.indexed ++ [event]
      if record.store.cleanupDue clock then
        let cutoffBucket := bucketOf (record.store.cutoffTime clock.cleanup)
        some ⟨store, indexed.filter (fun event => cutoffBucket ≤ bucketOf event.timestamp)⟩
      else some ⟨store, indexed⟩
  | .clear => some ⟨record.store.clear, []⟩

end Recorded

/-- All runs of `Store` and `Clear` from a new store, under any clock. -/
def recordMachine : Machine Recorded StoreOp where
  init := fun record => ∃ maxRetention now, record = ⟨newInMemoryEventStore maxRetention now, []⟩
  step := Recorded.step

def Recorded.Ordered (record : Recorded) : Prop :=
  Exact bucketOf Event.timestamp record.indexed record.store.bucket

theorem Recorded.ordered_step {record after : Recorded} {op : StoreOp} (held : record.Ordered)
    (stepped : record.step op = some after) : after.Ordered := by
  cases op with
  | clear =>
    cases stepped
    exact fun _ => rfl
  | store event clock =>
    cases event with
    | none =>
      cases stepped
      exact held
    | some event =>
      have added : Exact bucketOf Event.timestamp (record.indexed ++ [event]) (record.store.add event).bucket := by
        rw [bucket_add]
        exact Exact.insert held event
      simp only [Recorded.step] at stepped
      split at stepped
      next due =>
        cases stepped
        have pruned := added.pruneWhole (record.store.cutoffTime clock.cleanup)
        have buckets := bucket_cleanup (record.store.add event) clock.cleanup
        simp only [Recorded.Ordered, store_cleaned record.store event due]
        exact (congrArg (Exact bucketOf Event.timestamp _) buckets).mpr pruned
      next early =>
        cases stepped
        simp only [Recorded.Ordered, store_kept record.store event early]
        exact added

theorem Recorded.ordered_of_reachable {record : Recorded} (reached : recordMachine.Reachable record) :
    record.Ordered := by
  apply reached.invariant Recorded.Ordered
  · rintro _ ⟨maxRetention, now, rfl⟩ key
    rfl
  · intro _ _ _ _ held _ stepped
    exact Recorded.ordered_step held stepped

def Recorded.selected (record : Recorded) (startTime endTime : Time) (filter : Option (Event → Bool)) : List Event :=
  record.indexed.filter (fun event => decide (startTime ≤ event.timestamp) &&
    decide (event.timestamp ≤ endTime) && filter.getD (fun _ => true) event)

def minuteKey : Event → Int := bucketOf ∘ Event.timestamp

theorem Recorded.queryByTime_eq {record : Recorded} (held : record.Ordered) {startTime endTime : Time}
    (ordered : startTime ≤ endTime) (startFits : FitsUnix startTime) (endFits : FitsUnix endTime)
    (filter : Option (Event → Bool)) :
    record.store.queryByTime startTime endTime filter =
      .ok ((record.selected startTime endTime filter).mergeSort (byKey minuteKey)) := by
  rw [queryByTime_ok record.store ordered filter]
  have grouped (key : Int) : (record.store.bucket key).filter (selects startTime endTime filter) =
      withKey minuteKey (record.selected startTime endTime filter) key := by
    rw [held key, inBucket, List.filter_filter, withKey, Recorded.selected, List.filter_filter]
    apply List.filter_congr
    intro event _
    rw [selects_eq, Bool.and_comm]
    rfl
  simp only [grouped]
  congr 1
  apply flatMap_withKey
  intro event member
  simp only [Recorded.selected, List.mem_filter, Bool.and_eq_true, decide_eq_true_eq] at member
  exact Int.mem_range_iff.mp (mem_scanned startFits endFits member.2.1.1 member.2.1.2)

/-- For every reachable store, filter and range whose bounds have a `Unix()` that does not wrap, the loop ends, its
counter does not wrap, and the result is the stable sort by minute of the selected events in insertion order; it is
the selection itself if the indexed events were stored in the order of their timestamps. -/
theorem queryByTime_stable_sort (record : Recorded) (reached : recordMachine.Reachable record)
    (startTime endTime : Time) (ordered : startTime ≤ endTime) (startFits : FitsUnix startTime)
    (endFits : FitsUnix endTime) (filter : Option (Event → Bool)) :
    let selected := record.selected startTime endTime filter
    let result := selected.mergeSort (byKey minuteKey)
    (∃ turns, ∀ more ≥ turns, record.store.queryWithin more startTime endTime filter = some (.ok result)) ∧
    record.store.queryByTime startTime endTime filter = .ok result ∧
    (∀ bucket, bucket64 startTime ≤ bucket → bucket ≤ bucket64 endTime → (bucket + 1).toInt = bucket.toInt + 1) ∧
    (record.indexed.Pairwise (fun first second => first.timestamp ≤ second.timestamp) →
      result = selected ∧ result.Pairwise (fun first second => first.timestamp ≤ second.timestamp)) := by
  intro selected result
  have answer := Recorded.queryByTime_eq (Recorded.ordered_of_reachable reached) ordered startFits endFits filter
  refine ⟨⟨((bucket64 endTime).toInt + 1 - (bucket64 startTime).toInt).toNat + 1, fun more enough => ?_⟩, answer, ?_, ?_⟩
  · rw [queryWithin_done record.store ordered enough, answer]
  · intro bucket _ inside
    exact toInt_next (bucket64_lt endTime) inside
  · intro stored
    have sorted : selected.Pairwise (fun first second => first.timestamp ≤ second.timestamp) := stored.filter _
    have same : result = selected := mergeSort_of_mono bucketOf_mono sorted
    exact ⟨same, same ▸ sorted⟩

theorem queryByTime_stable_sort_expiring : ∃ record, recordMachine.Reachable record ∧
    record.indexed = [.sample "e1" 10000000000, .sample "e2" 86420000000000] ∧
    record.store.queryByTime zeroTime 86420000000000 none = .ok record.indexed := by
  obtain ⟨record, reached, tested⟩ := Machine.reaches_of_run recordMachine (fun _ _ => True)
    ⟨newInMemoryEventStore day 0, []⟩ expiring
    (fun record => record.indexed == [.sample "e1" 10000000000, .sample "e2" 86420000000000]) ⟨day, 0, rfl⟩ (by decide)
  have indexed := eq_of_beq tested
  have spec := queryByTime_stable_sort record reached zeroTime 86420000000000 (by decide) (by decide) (by decide) none
  have sorted := spec.2.2.2 (by rw [indexed]; decide)
  refine ⟨record, reached, indexed, ?_⟩
  rw [spec.2.1, sorted.1, Recorded.selected, indexed]
  rfl

/-- `time.Unix(1<<63-1, 0)`: the seconds wrap when they are counted from year one, so that it is a time before all
others, and they wrap back in `Unix()`. -/
def wrappedTime : Time := (-2 ^ 63 - 1) * 1000000000

/-- A range from that time on contains the event, but the loop begins at the last minute and makes no turn. -/
theorem queryByTime_start_wraps : ∃ record, recordMachine.Reachable record ∧ wrappedTime ≤ 20000000000 ∧
    record.selected wrappedTime 20000000000 none = [.sample "e1" 10000000000] ∧
    ∀ turns, record.store.queryWithin (turns + 1) wrappedTime 20000000000 none = some (.ok []) := by
  obtain ⟨record, reached, tested⟩ := Machine.reaches_of_run recordMachine (fun _ _ => True)
    ⟨newInMemoryEventStore day 0, []⟩ (expiring.take 1)
    (fun record => record.selected wrappedTime 20000000000 none == [.sample "e1" 10000000000]) ⟨day, 0, rfl⟩ (by decide)
  refine ⟨record, reached, by decide, eq_of_beq tested, fun turns => ?_⟩
  have late : ¬bucket64 wrappedTime ≤ bucket64 20000000000 := by decide
  rw [queryWithin, if_neg (by decide), scanFrom, if_neg late]
  rfl

end EventGateway.Replay
