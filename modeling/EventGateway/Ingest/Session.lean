import EventGateway.Domain.Identifier
import EventGateway.Ingest.Retry

/-! Ingestion after ingestion over the in-memory event store, with the readings of the clock as one
sequence: the IDs of all events are drawn from it in turn, two readings for each. -/

namespace EventGateway.Ingest
open Lib Lib.Effect Replay

inductive Ingestion where
  | event (request : IngestEventRequest)
  | batch (requests : List IngestEventRequest)

namespace Ports
variable {σ : Type}

def receipts (ports : Ports σ) (call : Ingestion) : σ → List (IngestEventRequest × String) × σ := fun state =>
  match call with
  | .event request =>
    match ports.ingestEvent request state with
    | (.ok eventID, after) => ([(request, eventID)], after)
    | (.error _, after) => ([], after)
  | .batch requests =>
    match ports.ingestEventBatch requests state with
    | (.ok eventIDs, after) => (requests.zip eventIDs, after)
    | (.error _, after) => ([], after)

def ingestAll (ports : Ports σ) : List Ingestion → σ → List (IngestEventRequest × String) × σ
  | [], state => ([], state)
  | call :: rest, state =>
    let (first, middle) := ports.receipts call state
    let (others, after) := ports.ingestAll rest middle
    (first ++ others, after)

end Ports

structure Clocked {τ : Type} (surroundings : Surroundings τ) (readings : Nat → Time) where
  /-- How many readings have been taken. -/
  taken : τ → Nat
  now_reads : ∀ state, (surroundings.now state).1 = readings (taken state)
  now_taken : ∀ state, taken (surroundings.now state).2 = taken state + 1
  publish_taken : ∀ event topic state, taken state ≤ taken (surroundings.publish event topic state).2
  validate_taken : ∀ schemaURL data state, taken state ≤ taken (surroundings.validate schemaURL data state).2

def Clocked.Undue {τ : Type} {surroundings : Surroundings τ} {readings : Nat → Time}
    (clock : Clocked surroundings readings) (lastCleanup : Time) (state : τ) : Prop :=
  ∀ place < clock.taken state, readings place - lastCleanup ≤ minute

/-- The IDs are drawn from the readings taken so far, in this order, and no two of them share a reading. -/
def Clocked.InTurn {τ : Type} {surroundings : Surroundings τ} {readings : Nat → Time}
    (clock : Clocked surroundings readings) (ids : List String) (state : τ) : Prop :=
  ∃ places : List Nat, places.Pairwise (fun place later => place + 2 ≤ later) ∧
    (∀ place ∈ places, place + 2 ≤ clock.taken state) ∧ ids = places.map (idAt readings)

/-- However requests are ingested from an empty store on, no two get the same ID. As long as no cleanup is due,
`Get` returns for each ID the event built from its request. -/
def EventsIdentified (readings : Nat → Time) : Prop :=
  ∀ (τ : Type) (surroundings : Surroundings τ) (clock : Clocked surroundings readings) (maxRetention : Duration)
    (started : Time) (state : τ) (calls : List Ingestion),
  let run := surroundings.ports.ingestAll calls (.newInMemoryEventStore maxRetention started, state)
  (run.1.map Prod.snd).Nodup ∧
  (clock.Undue started run.2.2 → ∀ receipt ∈ run.1, ∃ correlationID event,
    run.2.1.get receipt.2 = .ok event ∧ event.id = receipt.2 ∧ BuiltFrom correlationID receipt.1 event)

theorem get_of_nodup {store : InMemoryEventStore} (apart : (store.events.map Event.id).Nodup) {event : Event}
    (member : event ∈ store.events) : store.get event.id = .ok event := by
  obtain ⟨found, answer, same⟩ := store.getByID_found event member
  have listed : found ∈ store.events := by
    simp only [InMemoryEventStore.getByID, if_neg event.id_ne] at answer
    split at answer
    next search =>
      cases answer
      exact List.mem_of_find?_eq_some search
    next => cases answer
  rw [InMemoryEventStore.get, answer, List.inj_on_of_nodup_map apart listed member same]

section Progress
variable {τ : Type} {surroundings : Surroundings τ} {readings : Nat → Time} (clock : Clocked surroundings readings)
  (lastCleanup : Time) (start : Memory τ) (before : List String)

/-- Where a call is that began at `start`, when the IDs `before` had been drawn for events. Meanwhile `ids` have
been drawn, and `stored` was stored. -/
structure Progress (ids : List String) (stored : List Event) (memory : Memory τ) : Prop where
  drawn : clock.InTurn ids memory.2
  listed : (memory.1.events.map Event.id).Sublist (before ++ stored.map Event.id)
  kept : clock.Undue lastCleanup memory.2 → clock.Undue lastCleanup start.2 ∧
    memory.1.lastCleanup = lastCleanup ∧ memory.1.events = start.1.events ++ stored

variable {clock lastCleanup start before} {ids : List String} {stored : List Event} {memory after : Memory τ}

theorem Clocked.Undue.earlier {state later : τ} (undue : clock.Undue lastCleanup later)
    (taken : clock.taken state ≤ clock.taken later) : clock.Undue lastCleanup state :=
  fun place bound => undue place (bound.trans_le taken)

theorem Progress.later (progress : Progress clock lastCleanup start before ids stored memory)
    (store : after.1 = memory.1) (taken : clock.taken memory.2 ≤ clock.taken after.2) :
    Progress clock lastCleanup start before ids stored after := by
  obtain ⟨places, apart, bound, rfl⟩ := progress.drawn
  constructor
  · exact ⟨places, apart, fun place member => (bound place member).trans taken, rfl⟩
  · rw [store]
    exact progress.listed
  · intro undue
    rw [store]
    exact progress.kept (undue.earlier taken)

theorem Progress.forget {id : String} (progress : Progress clock lastCleanup start before (ids ++ [id]) stored memory) :
    Progress clock lastCleanup start before ids stored memory := by
  obtain ⟨places, apart, bound, same⟩ := progress.drawn
  obtain ⟨front, back, rfl, rfl, -⟩ := List.append_eq_map_iff.mp same
  refine ⟨⟨front, (List.pairwise_append.mp apart).1, ?_, rfl⟩, progress.listed, progress.kept⟩
  exact fun place member => bound place (List.mem_append_left _ member)

theorem generateID_progress {failed : Memory τ → Prop} :
    Triple (Progress clock lastCleanup start before ids stored) surroundings.ports.generateID
      (fun id memory => id ≠ "" ∧ Progress clock lastCleanup start before (ids ++ [id]) stored memory) failed := by
  intro memory progress
  obtain ⟨places, apart, bound, rfl⟩ := progress.drawn
  let middle := (surroundings.now memory.2).2
  let last := (surroundings.now middle).2
  have taken : clock.taken last = clock.taken memory.2 + 2 := by
    rw [clock.now_taken, clock.now_taken]
  have text : idText (surroundings.now memory.2).1 (surroundings.now middle).1 =
      idAt readings (clock.taken memory.2) := by
    rw [clock.now_reads, clock.now_reads, clock.now_taken, idAt]
  have later : Progress clock lastCleanup start before (places.map (idAt readings)) stored (memory.1, last) :=
    progress.later rfl (by simp only [taken]; omega)
  refine ⟨idText_ne _ _, ⟨places ++ [clock.taken memory.2], ?_, ?_, ?_⟩, later.listed, later.kept⟩
  · rw [List.pairwise_append]
    refine ⟨apart, List.pairwise_singleton _ _, ?_⟩
    intro place member other here
    cases List.mem_singleton.mp here
    exact bound place member
  · intro place member
    change place + 2 ≤ clock.taken last
    rcases List.mem_append.mp member with old | here
    · have early := bound place old
      omega
    · cases List.mem_singleton.mp here
      omega
  · rw [List.map_append, List.map_singleton, ← text]
    rfl

theorem correlationOr_progress {failed : Memory τ → Prop} (given : String) :
    Triple (Progress clock lastCleanup start before ids stored) (surroundings.ports.correlationOr given)
      (fun _ => Progress clock lastCleanup start before ids stored) failed := by
  unfold Ports.correlationOr
  split
  next => exact generateID_progress.weaken (fun _ _ drawn => drawn.2.forget) (fun _ => id)
  next => exact Triple.pure (fun _ reached => reached)

theorem storeInMemory_progress (event : Event) (progress : Progress clock lastCleanup start before ids stored memory) :
    Progress clock lastCleanup start before ids (stored ++ [event])
      (surroundings.storeInMemory event memory).2 := by
  obtain ⟨places, apart, bound, rfl⟩ := progress.drawn
  have taken : clock.taken memory.2 < clock.taken (surroundings.storeClock memory.1 memory.2).2 := by
    simp only [Surroundings.storeClock]
    split
    · simp only [clock.now_taken]
      omega
    · simp only [clock.now_taken]
      omega
  have since : (surroundings.storeClock memory.1 memory.2).1.since = readings (clock.taken memory.2) :=
    clock.now_reads memory.2
  have appended : ((memory.1.add event).events.map Event.id).Sublist
      (before ++ (stored ++ [event]).map Event.id) := by
    rw [InMemoryEventStore.add, List.map_append, List.map_append, ← List.append_assoc]
    exact progress.listed.append (List.Sublist.refl _)
  rw [storeInMemory_ok]
  constructor
  · exact ⟨places, apart, fun place member => (bound place member).trans taken.le, rfl⟩
  · by_cases due : memory.1.cleanupDue (surroundings.storeClock memory.1 memory.2).1
    · rw [InMemoryEventStore.store_cleaned _ _ due]
      exact (List.filter_sublist.map Event.id).trans appended
    · rw [InMemoryEventStore.store_kept _ _ due]
      exact appended
  · intro undue
    obtain ⟨begun, cleaned, events⟩ := progress.kept (undue.earlier taken.le)
    have early : ¬memory.1.cleanupDue (surroundings.storeClock memory.1 memory.2).1 := by
      rw [InMemoryEventStore.cleanupDue, since, cleaned, not_lt]
      exact undue _ taken
    rw [InMemoryEventStore.store_kept _ _ early]
    refine ⟨begun, cleaned, ?_⟩
    rw [InMemoryEventStore.add, events, List.append_assoc]

variable (clock lastCleanup start before) in
def progressAccount (ids : List String) : Account surroundings.ports where
  done stored _ := Progress clock lastCleanup start before ids stored
  refused stored _ _ _ := Progress clock lastCleanup start before ids stored
  unstored _ _ _ := False
  unpublished stored _ _ := Progress clock lastCleanup start before ids stored
  now _ _ memory progress := progress.later rfl (by
    change clock.taken memory.2 ≤ clock.taken (surroundings.now memory.2).2
    rw [clock.now_taken]
    omega)
  validate _ _ _ _ := Triple.of_final (fun _ progress => progress.later rfl (clock.validate_taken _ _ _))
  store _ _ event := by
    intro memory progress
    have stored := storeInMemory_progress event progress
    simp only [Surroundings.ports]
    rw [storeInMemory_ok] at stored ⊢
    exact stored
  publish _ _ _ _ := Triple.of_final (fun _ progress => progress.later rfl (clock.publish_taken _ _ _))

variable (clock lastCleanup start before) in
def Settled (memory : Memory τ) : Prop :=
  ∃ more stored, Progress clock lastCleanup start before (before ++ more) stored memory ∧
    (stored.map Event.id).Sublist more

theorem Settled.rejected {more : List String} {request : IngestEventRequest} {published : List (Event × String)}
    (rejected : (progressAccount clock lastCleanup start before (before ++ more)).Rejected request [] published
      memory) :
    Settled clock lastCleanup start before memory := by
  rcases rejected with ⟨-, progress⟩ | ⟨-, progress⟩
  · exact ⟨more, [], progress, List.nil_sublist more⟩
  · exact ⟨more, [], progress, List.nil_sublist more⟩

theorem ingestEvent_progress (request : IngestEventRequest) :
    Triple (Progress clock lastCleanup start before before []) (surroundings.ports.ingestEvent request)
      (fun eventID memory => ∃ correlationID event, BuiltFrom correlationID request event ∧ event.id = eventID ∧
        Progress clock lastCleanup start before (before ++ [eventID]) [event] memory)
      (Settled clock lastCleanup start before) := by
  apply generateID_progress.bind
  intro eventID
  apply Triple.given
  intro named
  apply (correlationOr_progress request.correlationID).bind
  intro correlationID
  let account := progressAccount clock lastCleanup start before (before ++ [eventID])
  have enriched := account.validateAndEnrichEvent_spec [] [] request named correlationID
  apply (enriched.failing (fun _ => Settled.rejected)).bind
  intro event
  apply Triple.given
  rintro ⟨built, rfl⟩
  have storing : Triple (account.done [] []) (surroundings.ports.store event) (fun _ => account.done [event] [])
      (Settled clock lastCleanup start before) :=
    (account.store [] [] event).failing (fun _ absurd => absurd.elim)
  have publishing : Triple (account.done [event] []) (surroundings.ports.publish event ("events." ++ request.type))
      (fun _ => account.done [event] []) (Settled clock lastCleanup start before) :=
    (account.publish [event] [] event _).failing (fun _ progress => ⟨[event.id], [event], progress, .refl _⟩)
  have kept : Triple (account.done [] []) (surroundings.ports.storeAndPublish event request.type)
      (fun _ => account.done [event] []) (Settled clock lastCleanup start before) := by
    apply storing.wrap.bind
    intro _
    apply publishing.wrap.bind
    intro _
    exact Triple.pure (fun _ progress => progress)
  apply kept.bind
  intro _
  exact Triple.pure (fun _ progress => ⟨correlationID, event, built, rfl, progress⟩)

theorem prepareBatchEvents_progress (requests : List IngestEventRequest) (correlationID : String) :
    Triple (Progress clock lastCleanup start before before [])
      (surroundings.ports.prepareBatchEvents requests correlationID)
      (fun made memory => (List.Forall₂ (BuiltFrom correlationID) requests made.1 ∧ made.2 = made.1.map Event.id) ∧
        Progress clock lastCleanup start before (before ++ made.2) [] memory)
      (Settled clock lastCleanup start before) := by
  let holds := fun done (made : List (Event × String)) memory =>
    List.Forall₂ (fun request made => BuiltFrom correlationID request made.1 ∧ made.1.id = made.2) done made ∧
    Progress clock lastCleanup start before (before ++ made.map Prod.snd) [] memory
  have turn : ∀ index done made, ∀ request ∈ requests,
      Triple (holds done made) (surroundings.ports.prepareBatchEvent correlationID index request)
        (fun next => holds (done ++ [request]) (made ++ [next])) (Settled clock lastCleanup start before) := by
    intro index done made request _
    apply Triple.given
    intro others
    apply generateID_progress.bind
    intro eventID
    apply Triple.given
    intro named
    rw [List.append_assoc]
    let account := progressAccount clock lastCleanup start before (before ++ (made.map Prod.snd ++ [eventID]))
    have enriched := account.validateAndEnrichEvent_spec [] [] request named correlationID
    apply (enriched.failing (fun _ => Settled.rejected)).wrap.bind
    intro event
    apply Triple.given
    intro own
    apply Triple.pure
    intro memory progress
    simp only [holds, List.map_append]
    exact ⟨List.rel_append others (.cons own .nil), progress⟩
  have loop : Triple (Progress clock lastCleanup start before before [])
      (collectFrom (surroundings.ports.prepareBatchEvent correlationID) 0 requests) (holds requests)
      (Settled clock lastCleanup start before) := by
    intro memory progress
    apply Triple.collecting holds requests turn 0 memory
    exact ⟨.nil, by rwa [List.map_nil, List.append_nil]⟩
  apply loop.bind
  intro made
  apply Triple.given
  intro each
  exact Triple.pure (fun _ progress => ⟨prepared_each each, progress⟩)

theorem storeBatchEvents_progress (events : List Event) :
    Triple (Progress clock lastCleanup start before (before ++ events.map Event.id) [])
      (surroundings.ports.storeBatchEvents events)
      (fun _ => Progress clock lastCleanup start before (before ++ events.map Event.id) events)
      (Settled clock lastCleanup start before) := by
  let account := progressAccount clock lastCleanup start before (before ++ events.map Event.id)
  refine Triple.eachFrom (fun done => account.done done []) events ?_ 0
  intro index done event _
  exact ((account.store done [] event).failing (fun _ absurd => absurd.elim)).wrap

theorem publishBatchEvents_progress (events : List Event) :
    Triple (Progress clock lastCleanup start before (before ++ events.map Event.id) events)
      (surroundings.ports.publishBatchEvents events)
      (fun _ => Progress clock lastCleanup start before (before ++ events.map Event.id) events)
      (Settled clock lastCleanup start before) := by
  let account := progressAccount clock lastCleanup start before (before ++ events.map Event.id)
  refine Triple.eachFrom (fun _ => account.done events []) events ?_ 0
  intro index done event _
  exact ((account.publish events [] event _).failing (fun _ progress => ⟨_, events, progress, .refl _⟩)).wrap

theorem ingestEventBatch_progress (requests : List IngestEventRequest) :
    Triple (Progress clock lastCleanup start before before []) (surroundings.ports.ingestEventBatch requests)
      (fun eventIDs memory => ∃ correlationID events, List.Forall₂ (BuiltFrom correlationID) requests events ∧
        eventIDs = events.map Event.id ∧
        Progress clock lastCleanup start before (before ++ eventIDs) events memory)
      (Settled clock lastCleanup start before) := by
  cases requests with
  | nil => exact Triple.pure (fun _ progress => ⟨"", [], .nil, rfl, by rwa [List.append_nil]⟩)
  | cons first rest =>
    apply (correlationOr_progress first.correlationID).bind
    intro correlationID
    apply (prepareBatchEvents_progress (first :: rest) correlationID).bind
    rintro ⟨events, eventIDs⟩
    apply Triple.given
    rintro ⟨built, same⟩
    dsimp only at built same ⊢
    subst same
    apply (storeBatchEvents_progress events).bind
    intro _
    apply (publishBatchEvents_progress events).bind
    intro _
    exact Triple.pure (fun _ progress => ⟨correlationID, events, built, rfl, progress⟩)

end Progress

section Ledger
variable {τ : Type} {surroundings : Surroundings τ} {readings : Nat → Time} {clock : Clocked surroundings readings}
  {lastCleanup : Time} {receipts : List (IngestEventRequest × String)} {ids : List String} {memory after : Memory τ}

/-- Between calls: the IDs of the receipts, and those of the stored events, are among the `ids` drawn in turn, and
without a cleanup the event of every receipt is stored. -/
structure Ledger (clock : Clocked surroundings readings) (lastCleanup : Time) (ids : List String)
    (receipts : List (IngestEventRequest × String)) (memory : Memory τ) : Prop where
  drawn : clock.InTurn ids memory.2
  returned : (receipts.map Prod.snd).Sublist ids
  listed : (memory.1.events.map Event.id).Sublist ids
  cleaned : clock.Undue lastCleanup memory.2 → memory.1.lastCleanup = lastCleanup
  answered : clock.Undue lastCleanup memory.2 → ∀ receipt ∈ receipts, ∃ event ∈ memory.1.events,
    event.id = receipt.2 ∧ ∃ correlationID, BuiltFrom correlationID receipt.1 event

theorem Ledger.begin (ledger : Ledger clock lastCleanup ids receipts memory) :
    Progress clock lastCleanup memory ids ids [] memory where
  drawn := ledger.drawn
  listed := by
    rw [List.map_nil, List.append_nil]
    exact ledger.listed
  kept undue := ⟨undue, ledger.cleaned undue, (List.append_nil _).symm⟩

theorem built_zip {correlationID : String} {requests : List IngestEventRequest} {events : List Event}
    (built : List.Forall₂ (BuiltFrom correlationID) requests events) :
    ∀ receipt ∈ requests.zip (events.map Event.id), ∃ event ∈ events, event.id = receipt.2 ∧
      BuiltFrom correlationID receipt.1 event := by
  induction built with
  | nil => simp
  | @cons request event _ _ own _ ih =>
    intro receipt member
    rw [List.map_cons, List.zip_cons_cons] at member
    rcases List.mem_cons.mp member with rfl | later
    · exact ⟨event, List.mem_cons_self, rfl, own⟩
    · obtain ⟨other, there, same⟩ := ih receipt later
      exact ⟨other, List.mem_cons_of_mem _ there, same⟩

theorem Ledger.success (ledger : Ledger clock lastCleanup ids receipts memory) {correlationID : String}
    {requests : List IngestEventRequest} {events : List Event}
    (built : List.Forall₂ (BuiltFrom correlationID) requests events)
    (progress : Progress clock lastCleanup memory ids (ids ++ events.map Event.id) events after) :
    Ledger clock lastCleanup (ids ++ events.map Event.id) (receipts ++ requests.zip (events.map Event.id)) after := by
  have whole : (events.map Event.id).length = requests.length := by rw [List.length_map, built.length_eq]
  constructor
  · exact progress.drawn
  · rw [List.map_append, List.map_snd_zip whole.le]
    exact ledger.returned.append (.refl _)
  · exact progress.listed
  · exact fun undue => (progress.kept undue).2.1
  · intro undue receipt member
    obtain ⟨begun, -, stored⟩ := progress.kept undue
    rw [stored]
    rcases List.mem_append.mp member with old | new
    · obtain ⟨event, there, answer⟩ := ledger.answered begun receipt old
      exact ⟨event, List.mem_append_left _ there, answer⟩
    · obtain ⟨event, there, same, made⟩ := built_zip built receipt new
      exact ⟨event, List.mem_append_right _ there, same, correlationID, made⟩

theorem Ledger.failure (ledger : Ledger clock lastCleanup ids receipts memory)
    (settled : Settled clock lastCleanup memory ids after) :
    ∃ more, Ledger clock lastCleanup (ids ++ more) receipts after := by
  obtain ⟨more, stored, progress, part⟩ := settled
  refine ⟨more, progress.drawn, ?_, ?_, fun undue => (progress.kept undue).2.1, ?_⟩
  · exact ledger.returned.trans (List.sublist_append_left ids more)
  · exact progress.listed.trans ((List.Sublist.refl ids).append part)
  · intro undue receipt member
    obtain ⟨begun, -, kept⟩ := progress.kept undue
    obtain ⟨event, there, answer⟩ := ledger.answered begun receipt member
    rw [kept]
    exact ⟨event, List.mem_append_left _ there, answer⟩

theorem ledger_call (ledger : Ledger clock lastCleanup ids receipts memory) (call : Ingestion) :
    ∃ more, Ledger clock lastCleanup (ids ++ more) (receipts ++ (surroundings.ports.receipts call memory).1)
      (surroundings.ports.receipts call memory).2 := by
  cases call with
  | event request =>
    have spec := ingestEvent_progress request memory ledger.begin
    simp only [Ports.receipts]
    split
    next eventID after ran =>
      rw [ran] at spec
      obtain ⟨correlationID, event, built, rfl, progress⟩ := spec
      exact ⟨[event.id], ledger.success (.cons built .nil) progress⟩
    next err after ran =>
      rw [ran] at spec
      rw [List.append_nil]
      exact ledger.failure spec
  | batch requests =>
    have spec := ingestEventBatch_progress requests memory ledger.begin
    simp only [Ports.receipts]
    split
    next eventIDs after ran =>
      rw [ran] at spec
      obtain ⟨correlationID, events, built, rfl, progress⟩ := spec
      exact ⟨events.map Event.id, ledger.success built progress⟩
    next err after ran =>
      rw [ran] at spec
      rw [List.append_nil]
      exact ledger.failure spec

theorem ledger_run (ledger : Ledger clock lastCleanup ids receipts memory) (calls : List Ingestion) :
    ∃ more, Ledger clock lastCleanup (ids ++ more) (receipts ++ (surroundings.ports.ingestAll calls memory).1)
      (surroundings.ports.ingestAll calls memory).2 := by
  induction calls generalizing ids receipts memory with
  | nil => exact ⟨[], by simpa only [Ports.ingestAll, List.append_nil] using ledger⟩
  | cons call rest ih =>
    obtain ⟨first, called⟩ := ledger_call ledger call
    obtain ⟨others, run⟩ := ih called
    rw [List.append_assoc, List.append_assoc] at run
    exact ⟨first ++ others, run⟩

end Ledger

/-- A clock that separates the calls of `generateID` gives IDs that identify events. -/
theorem eventsIdentified_of_separates {readings : Nat → Time} (separates : Separates readings) :
    EventsIdentified readings := by
  intro τ surroundings clock maxRetention started state calls run
  have fresh : Ledger clock started [] [] (.newInMemoryEventStore maxRetention started, state) :=
    ⟨⟨[], .nil, nofun, rfl⟩, .slnil, .slnil, fun _ => rfl, nofun⟩
  obtain ⟨ids, ledger⟩ := ledger_run fresh calls
  rw [List.nil_append, List.nil_append] at ledger
  have apart : ids.Nodup := by
    obtain ⟨places, apart, -, rfl⟩ := ledger.drawn
    rw [List.Nodup, List.pairwise_map]
    exact apart.imp (idAt_ne separates)
  constructor
  · exact apart.sublist ledger.returned
  · intro undue receipt member
    obtain ⟨event, stored, same, correlationID, built⟩ := ledger.answered undue receipt member
    have found := get_of_nodup (apart.sublist ledger.listed) stored
    exact ⟨correlationID, event, same ▸ found, same, built⟩

end EventGateway.Ingest
