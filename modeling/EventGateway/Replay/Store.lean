import EventGateway.Domain.Filter
import EventGateway.Lib.BucketIndex
import Mathlib.Data.Int.ConditionallyCompleteOrder
import Mathlib.Data.Int.Range
import Mathlib.Order.ConditionallyCompleteLattice.Basic

/-! The in-memory event store behind replay. The list `events` and the minute index
`timeBuckets` hold the same events and are pruned by `cleanup`. -/

namespace EventGateway.Replay
open Lib.BucketIndex

structure InMemoryEventStore where
  events : List Event
  maxRetention : Duration
  lastCleanup : Time
  timeBuckets : Int → Option (List Event)

/-- The map key of a stored timestamp or a cutoff, times from a clock or from RFC 3339 whose `Unix()` does not wrap: Go's
division truncates toward zero. -/
def bucketOf (time : Time) : Int := (unix time).tdiv 60

def FitsUnix (time : Time) : Prop := -2 ^ 63 ≤ unix time ∧ unix time < 2 ^ 63

instance (time : Time) : Decidable (FitsUnix time) := inferInstanceAs (Decidable (_ ∧ _))

/-- `Unix()/60` as it is computed, in 64 bits. The bounds of a range come from the client, and theirs may wrap. -/
def bucket64 (time : Time) : Int64 := Int64.ofInt (unix time) / 60

def minute : Int := 60 * 1000000000

structure TimeRange where
  start : Time
  stop : Time

/-- The clock readings of one `Store`, in the order it takes them: in `time.Since`, in
`cleanup`, and for the new `lastCleanup`. The last two are taken only if cleanup runs. -/
structure StoreClock where
  since : Time
  cleanup : Time
  stamp : Time

namespace InMemoryEventStore

def newInMemoryEventStore (maxRetention : Duration) (now : Time) : InMemoryEventStore where
  events := []
  maxRetention := maxRetention
  lastCleanup := now
  timeBuckets := fun _ => none

/-- The events that a read of `timeBuckets[bucket]` yields; a missing key reads as empty. -/
def bucket (ies : InMemoryEventStore) (key : Int) : List Event :=
  (ies.timeBuckets key).getD []

/-- The part of `Store` before the cleanup: append to the list and to the bucket. -/
def add (ies : InMemoryEventStore) (event : Event) : InMemoryEventStore :=
  { ies with
    events := ies.events ++ [event]
    timeBuckets := fun key => if key = bucketOf event.timestamp
      then some (ies.bucket key ++ [event]) else ies.timeBuckets key }

/-- `time.Now().Add(-ies.maxRetention)`; the negation wraps as in `int64`. -/
def cutoffTime (ies : InMemoryEventStore) (now : Time) : Time :=
  now + (-ies.maxRetention).toInt

def cleanup (ies : InMemoryEventStore) (now : Time) : InMemoryEventStore :=
  let cutoffBucket := bucketOf (ies.cutoffTime now)
  { ies with
    events := ies.events.filter (fun event => ies.cutoffTime now < event.timestamp)
    timeBuckets := fun key => if key < cutoffBucket then none else ies.timeBuckets key }

def cleanupDue (ies : InMemoryEventStore) (clock : StoreClock) : Prop :=
  clock.since - ies.lastCleanup > minute

instance (ies : InMemoryEventStore) (clock : StoreClock) : Decidable (ies.cleanupDue clock) :=
  inferInstanceAs (Decidable (_ > _))

def store (ies : InMemoryEventStore) (event : Option Event) (clock : StoreClock) :
    Except String Unit × InMemoryEventStore :=
  match event with
  | none => (.error "event cannot be nil", ies)
  | some event =>
    let ies := ies.add event
    if ies.cleanupDue clock then
      (.ok (), { ies.cleanup clock.cleanup with lastCleanup := clock.stamp })
    else (.ok (), ies)

def clear (ies : InMemoryEventStore) : InMemoryEventStore :=
  { ies with events := [], timeBuckets := fun _ => none }

def selects (startTime endTime : Time) (filter : Option (Event → Bool)) (event : Event) : Bool :=
  !(decide (event.timestamp < startTime) || decide (endTime < event.timestamp)) &&
    (match filter with
    | none => true
    | some keep => keep event)

def queryByTime (ies : InMemoryEventStore) (startTime endTime : Time)
    (filter : Option (Event → Bool)) : Except String (List Event) :=
  if endTime < startTime then .error "start time cannot be after end time"
  else .ok ((Int.range (bucket64 startTime).toInt ((bucket64 endTime).toInt + 1)).flatMap (fun key =>
    match ies.timeBuckets key with
    | some events => events.filter (selects startTime endTime filter)
    | none => []))

/-- The loop of `queryByTime` from one value of its counter on; `none` if it takes more turns. -/
def scanFrom (ies : InMemoryEventStore) (startTime endTime : Time) (filter : Option (Event → Bool))
    (endBucket : Int64) : Nat → Int64 → List Event → Option (List Event)
  | 0, _, _ => none
  | turns + 1, bucket, result =>
      if bucket ≤ endBucket then
        ies.scanFrom startTime endTime filter endBucket turns (bucket + 1)
          (match ies.timeBuckets bucket.toInt with
          | some events => result ++ events.filter (selects startTime endTime filter)
          | none => result)
      else some result

def queryWithin (ies : InMemoryEventStore) (turns : Nat) (startTime endTime : Time)
    (filter : Option (Event → Bool)) : Option (Except String (List Event)) :=
  if endTime < startTime then some (.error "start time cannot be after end time")
  else (ies.scanFrom startTime endTime filter (bucket64 endTime) turns (bucket64 startTime) []).map .ok

/-- The zero value of Go's `time.Time`, the start of year one. -/
def zeroTime : Time := -62135596800 * 1000000000

def query {engine : RegexpEngine} (ies : InMemoryEventStore) (filter : EventFilter engine)
    (timeRange : Option TimeRange) (now : Time) : Except String (List Event) :=
  let accept : Event → Bool := fun event => if filter.empty then true else filter.matchesEvent event
  match timeRange with
  | some range => ies.queryByTime range.start range.stop (some accept)
  | none => ies.queryByTime zeroTime now (some accept)

def getByID (ies : InMemoryEventStore) (eventID : String) : Except String Event :=
  if eventID = "" then .error "event ID cannot be empty"
  else match ies.events.find? (fun event => event.id == eventID) with
  | some event => .ok event
  | none => .error ("event " ++ eventID.quote ++ " not found")

def get (ies : InMemoryEventStore) (id : String) : Except String Event := ies.getByID id

theorem bucketOf_mono : Monotone bucketOf := by
  intro earlier later ordered
  exact Int.tdiv_le_tdiv (by decide) (Int.ediv_le_ediv (by decide) ordered)

theorem bucket_add (ies : InMemoryEventStore) (event : Event) :
    (ies.add event).bucket = insertIndex bucketOf Event.timestamp event ies.bucket := by
  funext key
  by_cases own : key = bucketOf event.timestamp
  · simp [bucket, add, insertIndex, own]
  · simp [bucket, add, insertIndex, own]

theorem bucket_cleanup (ies : InMemoryEventStore) (now : Time) :
    (ies.cleanup now).bucket = pruneIndex bucketOf (ies.cutoffTime now) ies.bucket := by
  funext key
  by_cases early : key < bucketOf (ies.cutoffTime now)
  · simp [bucket, cleanup, pruneIndex, early]
  · simp [bucket, cleanup, pruneIndex, early]

theorem store_passes (ies : InMemoryEventStore) (event : Event) (clock : StoreClock) :
    (ies.store (some event) clock).1 = .ok () := by
  unfold store
  dsimp only
  split <;> rfl

theorem store_kept (ies : InMemoryEventStore) (event : Event) {clock : StoreClock}
    (early : ¬ies.cleanupDue clock) : ies.store (some event) clock = (.ok (), ies.add event) := by
  have same : ¬(ies.add event).cleanupDue clock := early
  simp only [store, if_neg same]

theorem store_cleaned (ies : InMemoryEventStore) (event : Event) {clock : StoreClock}
    (due : ies.cleanupDue clock) :
    ies.store (some event) clock =
      (.ok (), { (ies.add event).cleanup clock.cleanup with lastCleanup := clock.stamp }) := by
  have same : (ies.add event).cleanupDue clock := due
  simp only [store, if_pos same]

theorem queryByTime_ok (ies : InMemoryEventStore) {startTime endTime : Time}
    (ordered : startTime ≤ endTime) (filter : Option (Event → Bool)) :
    ies.queryByTime startTime endTime filter = .ok
      ((Int.range (bucket64 startTime).toInt ((bucket64 endTime).toInt + 1)).flatMap (fun key =>
        (ies.bucket key).filter (selects startTime endTime filter))) := by
  unfold queryByTime
  rw [if_neg (not_lt.mpr ordered)]
  congr 2
  funext key
  unfold bucket
  cases ies.timeBuckets key <;> rfl

theorem getByID_found (ies : InMemoryEventStore) (event : Event) (listed : event ∈ ies.events) :
    ∃ found, ies.getByID event.id = .ok found ∧ found.id = event.id := by
  unfold getByID
  rw [if_neg event.id_ne]
  cases search : ies.events.find? (fun other => other.id == event.id) with
  | none =>
    have missing := List.find?_eq_none.mp search event listed
    simp at missing
  | some found =>
    have same := List.find?_some search
    exact ⟨found, rfl, by simpa using same⟩

end InMemoryEventStore

/-! Three events for concrete runs, at any time. -/

def e1 (timestamp : Time) : Event := .sample "e1" timestamp

def e2 (timestamp : Time) : Event := .sample "e2" timestamp

def e3 (timestamp : Time) : Event := .sample "e3" timestamp

end EventGateway.Replay
