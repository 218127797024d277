import EventGateway.Ingest.Agreement
import EventGateway.Replay.Index

/-! Failed ingestion over the in-memory event store. The service never takes a stored
event back: what a failed call leaves behind depends on the phase that failed. -/

namespace EventGateway.Ingest
open Lib Lib.Effect Lib.BucketIndex Replay Replay.InMemoryEventStore

abbrev Memory (τ : Type) := InMemoryEventStore × τ

structure Surroundings (τ : Type) where
  now : τ → Time × τ
  publish : Event → String → Effect τ Unit
  validate : String → Bytes → Effect τ Unit

namespace Surroundings
variable {τ : Type}

/-- The clock readings that a `Store` finds, and the state after them. The second and
third are taken only if it cleans up. -/
def storeClock (surroundings : Surroundings τ) (store : InMemoryEventStore) (state : τ) : StoreClock × τ :=
  let (since, afterSince) := surroundings.now state
  let (cleanup, afterCleanup) := surroundings.now afterSince
  let (stamp, afterStamp) := surroundings.now afterCleanup
  let clock : StoreClock := ⟨since, cleanup, stamp⟩
  (clock, if store.cleanupDue clock then afterStamp else afterSince)

def storeInMemory (surroundings : Surroundings τ) (event : Event) : Effect (Memory τ) Unit := fun memory =>
  let (clock, state) := surroundings.storeClock memory.1 memory.2
  let (result, store) := memory.1.store (some event) clock
  (result, store, state)

def outside {α : Type} (action : Effect τ α) : Effect (Memory τ) α := fun memory =>
  ((action memory.2).1, memory.1, (action memory.2).2)

def ports (surroundings : Surroundings τ) : Ports (Memory τ) where
  now memory := ((surroundings.now memory.2).1, memory.1, (surroundings.now memory.2).2)
  store := surroundings.storeInMemory
  publish event topic := outside (surroundings.publish event topic)
  validate schemaURL data := outside (surroundings.validate schemaURL data)

end Surroundings

/-- The cutoff of the cleanup that a `Store` makes here, if it makes one. -/
def Surroundings.cutoff {τ : Type} (surroundings : Surroundings τ) (memory : Memory τ) : List Time :=
  let clock := (surroundings.storeClock memory.1 memory.2).1
  if memory.1.cleanupDue clock then [memory.1.cutoffTime clock.cleanup] else []

/-- Calls of the ports lead from one memory to another. They have stored these events, in this order and each with the
clock as it read at that point; the cutoffs are those of the cleanups on the way. -/
inductive Passes {τ : Type} (surroundings : Surroundings τ) (start : Memory τ) :
    List Event → List Time → Memory τ → Prop where
  | start : Passes surroundings start [] [] start
  | now {stored : List Event} {cutoffs : List Time} {memory : Memory τ}
      (before : Passes surroundings start stored cutoffs memory) :
      Passes surroundings start stored cutoffs (memory.1, (surroundings.now memory.2).2)
  | outside {stored : List Event} {cutoffs : List Time} {memory : Memory τ} (action : Effect τ Unit)
      (port : (∃ schemaURL data, action = surroundings.validate schemaURL data) ∨
        ∃ event topic, action = surroundings.publish event topic)
      (before : Passes surroundings start stored cutoffs memory) :
      Passes surroundings start stored cutoffs (Surroundings.outside action memory).2
  | store {stored : List Event} {cutoffs : List Time} {memory : Memory τ} (event : Event)
      (before : Passes surroundings start stored cutoffs memory) :
      Passes surroundings start (stored ++ [event]) (cutoffs ++ surroundings.cutoff memory)
        (surroundings.storeInMemory event memory).2

def Present (store : InMemoryEventStore) (event : Event) : Prop :=
  event ∈ store.events ∧ event ∈ store.bucket (bucketOf event.timestamp)

/-- `Get` finds an event with this ID, and every `Query` that asks for the event returns it. -/
structure Replayable (store : InMemoryEventStore) (event : Event) : Prop where
  get : ∃ found, store.get event.id = .ok found ∧ found.id = event.id
  query : ∀ (engine : RegexpEngine) (filter : EventFilter engine) (range : TimeRange) (now : Time),
    FitsUnix range.start → FitsUnix range.stop → range.start ≤ event.timestamp → event.timestamp ≤ range.stop →
    filter.empty = true ∨ filter.matchesEvent event = true →
      ∃ events, store.query filter (some range) now = .ok events ∧ event ∈ events

theorem storeInMemory_ok {τ : Type} (surroundings : Surroundings τ) (event : Event) (memory : Memory τ) :
    surroundings.storeInMemory event memory =
      (.ok (), (memory.1.store (some event) (surroundings.storeClock memory.1 memory.2).1).2,
        (surroundings.storeClock memory.1 memory.2).2) := by
  have passed := memory.1.store_passes event (surroundings.storeClock memory.1 memory.2).1
  simp only [Surroundings.storeInMemory, passed]

theorem outside_keeps {τ α : Type} {action : Effect τ α} {holds : τ → Prop}
    (kept : Triple holds action (fun _ => holds) holds) :
    Triple (fun memory : Memory τ => holds memory.2) (Surroundings.outside action)
      (fun _ memory => holds memory.2) (fun memory => holds memory.2) :=
  Triple.of_final (fun _ reached => kept.final reached)

/-- What the clock, the publisher and the validator keep of their own state, all ports keep. -/
theorem Surroundings.keeps {τ : Type} {surroundings : Surroundings τ} {holds : τ → Prop}
    (now : ∀ state, holds state → holds (surroundings.now state).2)
    (publish : ∀ event topic, Triple holds (surroundings.publish event topic) (fun _ => holds) holds)
    (validate : ∀ schemaURL data, Triple holds (surroundings.validate schemaURL data) (fun _ => holds) holds) :
    surroundings.ports.Keeps (fun memory => holds memory.2) where
  now memory kept := now memory.2 kept
  validate schemaURL data := outside_keeps (validate schemaURL data)
  store event := by
    intro memory kept
    simp only [Surroundings.ports, storeInMemory_ok, Surroundings.storeClock]
    split
    next => exact now _ (now _ (now _ kept))
    next => exact now _ kept
  publish event topic := outside_keeps (publish event topic)

section Presence
variable {store : InMemoryEventStore} {event other : Event}

theorem Present.replayable (present : Present store event) : Replayable store event where
  get := store.getByID_found event present.1
  query engine filter range now startFits endFits after before wanted := by
    refine ⟨_, queryByTime_ok store (after.trans before) _, ?_⟩
    refine List.mem_flatMap.mpr ⟨_, mem_scanned startFits endFits after before, List.mem_filter.mpr ⟨present.2, ?_⟩⟩
    simp only [selects_eq, after, before, decide_true, Bool.and_self, Bool.true_and, Option.getD_some]
    split
    next => rfl
    next full => exact wanted.resolve_left full

theorem Present.added (present : Present store event) (other : Event) : Present (store.add other) event := by
  refine ⟨List.mem_append_left _ present.1, ?_⟩
  rw [bucket_add]
  unfold insertIndex
  split
  next => exact List.mem_append_left _ present.2
  next => exact present.2

theorem present_add (store : InMemoryEventStore) (event : Event) : Present (store.add event) event := by
  refine ⟨List.mem_append_right _ List.mem_cons_self, ?_⟩
  rw [bucket_add, insertIndex, if_pos rfl]
  exact List.mem_append_right _ List.mem_cons_self

theorem Present.cleaned (present : Present store event) {now : Time} (young : store.cutoffTime now < event.timestamp) :
    Present (store.cleanup now) event := by
  refine ⟨List.mem_filter.mpr ⟨present.1, decide_eq_true young⟩, ?_⟩
  rw [bucket_cleanup, pruneIndex, if_neg (not_lt.mpr (bucketOf_mono young.le))]
  exact present.2

theorem Present.stored (present : Present (store.add other) event) {clock : StoreClock}
    (young : store.cleanupDue clock → store.cutoffTime clock.cleanup < event.timestamp) :
    Present (store.store (some other) clock).2 event := by
  by_cases due : store.cleanupDue clock
  · rw [store_cleaned store other due]
    exact present.cleaned (young due)
  · rw [store_kept store other due]
    exact present

end Presence

section Passing
variable {τ : Type} {surroundings : Surroundings τ} {start memory after : Memory τ} {stored : List Event}
  {cutoffs : List Time} {event : Event}

theorem Passes.unchanged (passed : Passes surroundings start [] cutoffs memory) : memory.1 = start.1 := by
  generalize none : ([] : List Event) = stored at passed
  induction passed with
  | start => rfl
  | now before ih => exact ih none
  | outside action port before ih => exact ih none
  | store event before ih => exact absurd none.symm (List.append_ne_nil_of_right_ne_nil _ (List.cons_ne_nil _ _))

theorem Passes.present (passed : Passes surroundings start stored cutoffs memory) (member : event ∈ stored)
    (young : ∀ cutoff ∈ cutoffs, cutoff < event.timestamp) : Present memory.1 event := by
  induction passed with
  | start => cases member
  | now before ih => exact ih member young
  | outside action port before ih => exact ih member young
  | @store done earlier memory latest before ih =>
    rw [storeInMemory_ok]
    have later : memory.1.cleanupDue (surroundings.storeClock memory.1 memory.2).1 →
        memory.1.cutoffTime (surroundings.storeClock memory.1 memory.2).1.cleanup < event.timestamp := by
      intro due
      apply young _ (List.mem_append_right _ _)
      rw [Surroundings.cutoff, if_pos due]
      exact List.mem_cons_self
    rcases List.mem_append.mp member with old | new
    · exact ((ih old (fun cutoff known => young cutoff (List.mem_append_left _ known))).added latest).stored later
    · cases List.mem_singleton.mp new
      exact (present_add memory.1 event).stored later

def FailsAfter (surroundings : Surroundings τ) (start : Memory τ) (stored : List Event) (action : Effect τ Unit)
    (after : Memory τ) : Prop :=
  ∃ cutoffs last err, Passes surroundings start stored cutoffs last ∧
    Surroundings.outside action last = (.error err, after)

theorem FailsAfter.passes {action : Effect τ Unit}
    (port : (∃ schemaURL data, action = surroundings.validate schemaURL data) ∨
      ∃ event topic, action = surroundings.publish event topic)
    (failed : FailsAfter surroundings start stored action after) :
    ∃ cutoffs, Passes surroundings start stored cutoffs after := by
  obtain ⟨cutoffs, last, err, passed, ran⟩ := failed
  have next := passed.outside action port
  rw [ran] at next
  exact ⟨cutoffs, next⟩

theorem outside_passes {action : Effect τ Unit}
    (port : (∃ schemaURL data, action = surroundings.validate schemaURL data) ∨
      ∃ event topic, action = surroundings.publish event topic) (stored : List Event) :
    Triple (fun memory => ∃ cutoffs, Passes surroundings start stored cutoffs memory) (Surroundings.outside action)
      (fun _ memory => ∃ cutoffs, Passes surroundings start stored cutoffs memory)
      (FailsAfter surroundings start stored action) := by
  rintro memory ⟨cutoffs, passed⟩
  have next := passed.outside action port
  rcases ran : Surroundings.outside action memory with ⟨err | _, after⟩
  · exact ⟨cutoffs, memory, err, passed, ran⟩
  · rw [ran] at next
    exact ⟨cutoffs, next⟩

end Passing

/-- In memory, storing never fails, and every stored event is one call of `Store`. -/
def memoryAccount {τ : Type} (surroundings : Surroundings τ) (start : Memory τ) : Account surroundings.ports where
  done stored _ memory := ∃ cutoffs, Passes surroundings start stored cutoffs memory
  refused stored _ schemaURL data := FailsAfter surroundings start stored (surroundings.validate schemaURL data)
  unstored _ _ _ := False
  unpublished stored _ message := FailsAfter surroundings start stored (surroundings.publish message.1 message.2)
  now := by
    rintro _ _ _ ⟨cutoffs, passed⟩
    exact ⟨cutoffs, passed.now⟩
  validate stored _ schemaURL data := outside_passes (.inl ⟨schemaURL, data, rfl⟩) stored
  store stored _ event := by
    rintro memory ⟨cutoffs, passed⟩
    have next := passed.store event
    simp only [Surroundings.ports]
    rw [storeInMemory_ok] at next ⊢
    exact ⟨_, next⟩
  publish stored _ event topic := outside_passes (.inr ⟨event, topic, rfl⟩) stored

/-- How an ingestion of these requests fails over the in-memory store: before anything was stored, because a request
is invalid or the validator refuses it; or in the publisher, when each of the events was stored once, in order, and
can be replayed unless a cleanup during the call reached it. -/
inductive FailedCall {τ : Type} (surroundings : Surroundings τ) (requests : List IngestEventRequest)
    (start after : Memory τ) : Prop where
  | turnedDown (request : IngestEventRequest) (member : request ∈ requests)
      (why : ¬request.Valid ∨ request.schemaURL ≠ "" ∧
        FailsAfter surroundings start [] (surroundings.validate request.schemaURL request.data) after)
      (same : after.1 = start.1)
  | unpublished (correlationID : String) (events : List Event) (event : Event) (cutoffs : List Time)
      (built : List.Forall₂ (BuiltFrom correlationID) requests events) (member : event ∈ events)
      (why : FailsAfter surroundings start events (surroundings.publish event ("events." ++ event.eventType)) after)
      (passed : Passes surroundings start events cutoffs after)
      (kept : ∀ event ∈ events, (∀ cutoff ∈ cutoffs, cutoff < event.timestamp) → Replayable after.1 event)

section Failing
variable {τ : Type} {surroundings : Surroundings τ} {start after : Memory τ} {requests : List IngestEventRequest}

theorem FailedCall.rejected {request : IngestEventRequest} (member : request ∈ requests)
    (rejected : (memoryAccount surroundings start).Rejected request [] [] after) :
    FailedCall surroundings requests start after := by
  rcases rejected with ⟨invalid, cutoffs, passed⟩ | ⟨schema, failed⟩
  · exact .turnedDown request member (.inl invalid) passed.unchanged
  · obtain ⟨cutoffs, passed⟩ := failed.passes (.inl ⟨_, _, rfl⟩)
    exact .turnedDown request member (.inr ⟨schema, failed⟩) passed.unchanged

theorem FailedCall.publishing {correlationID : String} {events : List Event} {event : Event}
    (built : List.Forall₂ (BuiltFrom correlationID) requests events) (member : event ∈ events)
    (failed : FailsAfter surroundings start events (surroundings.publish event ("events." ++ event.eventType)) after) :
    FailedCall surroundings requests start after := by
  obtain ⟨cutoffs, passed⟩ := failed.passes (.inr ⟨_, _, rfl⟩)
  exact .unpublished correlationID events event cutoffs built member failed passed
    (fun event member young => (passed.present member young).replayable)

end Failing

end EventGateway.Ingest
