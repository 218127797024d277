import EventGateway.Lib.Slices
import EventGateway.Lib.TopK
import EventGateway.Replay.Index

/-! `GetLatest` on the store as it lies in memory, where its list and each of its buckets are
slices. The sort works in place, on an array that the call has allocated for itself. -/

namespace EventGateway.Replay
open Lib Lib.Slices Lib.TopK InMemoryEventStore

structure HeldStore where
  memory : Memory Event
  events : Slice
  maxRetention : Duration
  lastCleanup : Time
  timeBuckets : Int → Option Slice
  eventsWithin : events.Within memory
  bucketsWithin : ∀ key bucket, timeBuckets key = some bucket → bucket.Within memory

namespace HeldStore

def viewIn (store : HeldStore) (memory : Memory Event) : InMemoryEventStore where
  events := memory.read store.events
  maxRetention := store.maxRetention
  lastCleanup := store.lastCleanup
  timeBuckets := fun key => (store.timeBuckets key).map memory.read

def view (store : HeldStore) : InMemoryEventStore := store.viewIn store.memory

def getLatest (sorting : SortBy Event) (store : HeldStore) (limit : Int) : Except String Slice × Memory Event :=
  if limit < 1 then (.error "limit must be at least 1", store.memory)
  else if store.events.length = 0 then
    let made := store.memory.allocate []
    (.ok made.1, made.2)
  else
    let made := store.memory.allocate (store.memory.read store.events)
    let sorted := made.1
    let memory := made.2.write sorted
      (sorting.sort (fun first second => second.timestamp < first.timestamp) (made.2.read sorted))
    let limit := if sorted.length < limit then (sorted.length : Int) else limit
    (.ok (sorted.upTo limit.toNat), memory)

section View
variable (store : HeldStore) {memory : Memory Event}

/-- A memory in which all slices of the store read as before shows the same store. -/
theorem viewIn_eq (same : ∀ slice : Slice, slice.Within store.memory → memory.read slice = store.memory.read slice) :
    store.viewIn memory = store.view := by
  have buckets : (fun key => (store.timeBuckets key).map memory.read) =
      fun key => (store.timeBuckets key).map store.memory.read := by
    funext key
    cases known : store.timeBuckets key with
    | none => rfl
    | some bucket => exact congrArg some (same bucket (store.bucketsWithin key bucket known))
  rw [view, viewIn, viewIn, buckets, same store.events store.eventsWithin]

theorem viewIn_allocate (entries : List Event) : store.viewIn (store.memory.allocate entries).2 = store.view :=
  store.viewIn_eq (fun _ within => Memory.read_allocate entries within)

theorem viewIn_write (entries sorted : List Event) :
    store.viewIn ((store.memory.allocate entries).2.write (store.memory.allocate entries).1 sorted) = store.view := by
  apply store.viewIn_eq
  intro slice within
  have apart : (store.memory.allocate entries).1.array ≠ slice.array := within.array_lt.ne'
  rw [Memory.read_write_other sorted apart, Memory.read_allocate entries within]

end View

end HeldStore

/-- For every store and every positive limit the call returns that many of the listed events, or all of them, in
falling order of their timestamps and none of them earlier than one that is left out; the list and the buckets of the
store read as before. -/
theorem getLatest_greatest (sorting : SortBy Event) (store : HeldStore) (limit : Int) (positive : 1 ≤ limit) :
    ∃ latest after, store.getLatest sorting limit = (.ok latest, after) ∧
      Greatest Event.timestamp (min limit.toNat store.view.events.length) store.view.events (after.read latest) ∧
      store.viewIn after = store.view := by
  have size : store.view.events.length = store.events.length := store.eventsWithin.length_read
  unfold HeldStore.getLatest
  rw [if_neg (not_lt.mpr positive)]
  split
  next empty =>
    refine ⟨_, _, rfl, ?_, store.viewIn_allocate []⟩
    have nothing : store.view.events = [] := List.length_eq_zero_iff.mp (size.trans empty)
    rw [Memory.read_allocated, nothing]
    exact ⟨⟨[], .refl _, nofun⟩, by simp, .nil⟩
  next =>
    refine ⟨_, _, rfl, ?_, store.viewIn_write _ _⟩
    have within := Memory.within_allocated store.memory (store.memory.read store.events)
    have copied := Memory.read_allocated store.memory (store.memory.read store.events)
    have count : (if (store.view.events.length : Int) < limit then (store.view.events.length : Int) else limit).toNat =
        min limit.toNat store.view.events.length := by
      split <;> omega
    have whole := (sorting.perm (later Event.timestamp) store.view.events).length_eq
    have length : (store.memory.allocate (store.memory.read store.events)).1.length = store.view.events.length := rfl
    have latest := Memory.read_write within whole (Nat.min_le_right limit.toNat store.view.events.length)
    have greatest := greatest_take Event.timestamp sorting store.view.events
      (Nat.min_le_right limit.toNat store.view.events.length)
    rw [copied, length, count]
    exact (congrArg (Greatest Event.timestamp _ store.view.events) latest).mpr greatest

def threeHeld : HeldStore where
  memory := ⟨[[e1 1, e3 3, e2 2]]⟩
  events := ⟨0, 3⟩
  maxRetention := 0
  lastCleanup := 0
  timeBuckets := fun _ => none
  eventsWithin := ⟨_, rfl, le_refl _⟩
  bucketsWithin := nofun

theorem getLatest_greatest_two : ∃ latest after, threeHeld.getLatest (mergeSorting Event) 2 = (.ok latest, after) ∧
    Greatest Event.timestamp 2 [.sample "e1" 1, .sample "e3" 3, .sample "e2" 2] (after.read latest) ∧
    threeHeld.viewIn after = threeHeld.view :=
  getLatest_greatest (mergeSorting Event) threeHeld 2 (by decide)

section Held
variable (store : HeldStore)

theorem held_events (events : List Event) : ∃ after : HeldStore, after.view = { store.view with events } := by
  refine ⟨{
    memory := (store.memory.allocate events).2
    events := (store.memory.allocate events).1
    maxRetention := store.maxRetention
    lastCleanup := store.lastCleanup
    timeBuckets := store.timeBuckets
    eventsWithin := Memory.within_allocated store.memory events
    bucketsWithin := fun key bucket known => Memory.within_allocate events (store.bucketsWithin key bucket known) }, ?_⟩
  have listed := Memory.read_allocated store.memory events
  have buckets := congrArg InMemoryEventStore.timeBuckets (store.viewIn_allocate events)
  simp only [HeldStore.view, HeldStore.viewIn] at buckets ⊢
  rw [listed, buckets]

theorem held_bucket (bucket : Int) (events : List Event) : ∃ after : HeldStore, after.view =
    { store.view with timeBuckets := fun key => if key = bucket then some events else store.view.timeBuckets key } := by
  refine ⟨{
    memory := (store.memory.allocate events).2
    events := store.events
    maxRetention := store.maxRetention
    lastCleanup := store.lastCleanup
    timeBuckets := fun key => if key = bucket then some (store.memory.allocate events).1 else store.timeBuckets key
    eventsWithin := Memory.within_allocate events store.eventsWithin
    bucketsWithin := ?_ }, ?_⟩
  · intro key slice known
    split at known
    next =>
      cases known
      exact Memory.within_allocated store.memory events
    next => exact Memory.within_allocate events (store.bucketsWithin key slice known)
  · have listed := congrArg InMemoryEventStore.events (store.viewIn_allocate events)
    have buckets := congrArg InMemoryEventStore.timeBuckets (store.viewIn_allocate events)
    have added : (fun key => (if key = bucket then some (store.memory.allocate events).1 else store.timeBuckets key).map
        (store.memory.allocate events).2.read) =
          fun key => if key = bucket then some events else store.view.timeBuckets key := by
      funext key
      split
      next => exact congrArg some (Memory.read_allocated store.memory events)
      next => exact congrFun buckets key
    simp only [HeldStore.view, HeldStore.viewIn] at listed added ⊢
    rw [listed, added]

theorem held_dropped (gone : Int → Prop) [DecidablePred gone] : ∃ after : HeldStore, after.view =
    { store.view with timeBuckets := fun key => if gone key then none else store.view.timeBuckets key } := by
  refine ⟨{ store with
    timeBuckets := fun key => if gone key then none else store.timeBuckets key
    bucketsWithin := ?_ }, ?_⟩
  · intro key slice known
    split at known
    next => cases known
    next => exact store.bucketsWithin key slice known
  · simp only [HeldStore.view, HeldStore.viewIn]
    congr 1
    funext key
    split <;> rfl

theorem held_stamped (lastCleanup : Time) : ∃ after : HeldStore, after.view = { store.view with lastCleanup } :=
  ⟨{ store with lastCleanup }, rfl⟩

end Held

theorem held_of_reachable {history : History} (reached : storeMachine.Reachable history) :
    ∃ store : HeldStore, store.view = history.store := by
  apply reached.invariant (fun history => ∃ store : HeldStore, store.view = history.store)
  · rintro _ ⟨maxRetention, now, rfl⟩
    exact ⟨⟨⟨[[]]⟩, ⟨0, 0⟩, maxRetention, now, fun _ => none, ⟨[], rfl, le_refl _⟩, nofun⟩, rfl⟩
  · rintro history op after - ⟨store, held⟩ - stepped
    have added (event : Event) : ∃ after : HeldStore, after.view = history.store.add event := by
      obtain ⟨longer, listed⟩ := held_events store (history.store.events ++ [event])
      obtain ⟨after, indexed⟩ := held_bucket longer (bucketOf event.timestamp)
        (history.store.bucket (bucketOf event.timestamp) ++ [event])
      refine ⟨after, ?_⟩
      have buckets : (fun key => if key = bucketOf event.timestamp
          then some (history.store.bucket (bucketOf event.timestamp) ++ [event]) else history.store.timeBuckets key) =
          (history.store.add event).timeBuckets := by
        funext key
        dsimp only [add]
        split
        next own => rw [own]
        next => rfl
      rw [indexed, listed, held]
      dsimp only
      rw [buckets]
      rfl
    rcases History.step_cases stepped with ⟨clock, -, rfl⟩ | ⟨event, clock, -, -, -, rfl⟩ |
      ⟨event, clock, -, -, -, -, rfl⟩ | ⟨-, rfl⟩
    · exact ⟨store, held⟩
    · exact added event
    · obtain ⟨longer, same⟩ := added event
      obtain ⟨shorter, listed⟩ := held_events longer ((history.store.add event).cleanup clock.cleanup).events
      obtain ⟨pruned, dropped⟩ := held_dropped shorter
        (fun key => key < bucketOf ((history.store.add event).cutoffTime clock.cleanup))
      obtain ⟨after, stamped⟩ := held_stamped pruned clock.stamp
      refine ⟨after, ?_⟩
      rw [stamped, dropped, listed, same]
      rfl
    · obtain ⟨emptied, listed⟩ := held_events store []
      obtain ⟨after, dropped⟩ := held_dropped emptied (fun _ => True)
      refine ⟨after, ?_⟩
      rw [dropped, listed, held]
      rfl

end EventGateway.Replay
