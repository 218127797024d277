import EventGateway.Ingest.Batch

/-! Batch ingestion against one-by-one ingestion of the same requests. -/

namespace EventGateway.Ingest
open Lib Lib.Effect

/-- The fields of an event that the two paths are compared on: all but its ID and its
times, and the correlation ID only where the service did not have to generate one. -/
structure Content where
  source : String
  type : String
  subject : String
  data : Bytes
  dataContentType : String
  schemaURL : String
  metadata : StringMap
  correlationID : Option String
  causationID : String
  partitionKey : String
  priority : Priority
  deriving DecidableEq

def contentFor (request : IngestEventRequest) (event : Event) : Content where
  source := event.source
  type := event.eventType
  subject := event.subject
  data := event.data
  dataContentType := event.dataContentType
  schemaURL := event.schemaURL
  metadata := event.metadata
  correlationID := if request.correlationID = "" then none else some event.correlationID
  causationID := event.causationID
  partitionKey := event.partitionKey
  priority := event.priority

def Agree (requests : List IngestEventRequest) (events events' : List Event) : Prop :=
  events.length = requests.length ∧ events'.length = requests.length ∧
    List.zipWith contentFor requests events = List.zipWith contentFor requests events'

namespace Ports
variable {σ : Type}

def ingestEach (ports : Ports σ) (requests : List IngestEventRequest) : Effect σ Unit :=
  eachFrom (fun _ request => do
    let _ ← ports.ingestEvent request
    pure ()) 0 requests

structure NeverFails (ports : Ports σ) : Prop where
  store : ∀ event state, ∃ after, ports.store event state = (.ok (), after)
  publish : ∀ event topic state, ∃ after, ports.publish event topic state = (.ok (), after)

end Ports

def OwnCorrelation (requests : List IngestEventRequest) (events : List Event) : Prop :=
  List.Forall₂ (fun request event => request.correlationID ≠ "" →
    event.correlationID = request.correlationID) requests events

/-- Over every store and publisher that never fail, the batch stores and publishes what
the single calls do. -/
def BatchAgrees (requests : List IngestEventRequest) : Prop :=
  ∀ (σ : Type) (ports : Ports σ), ports.NeverFails → ∀ env env',
    let batched := (ports.journal.ingestEventBatch requests (Journal.start env)).2
    let single := (ports.journal.ingestEach requests (Journal.start env')).2
    Agree requests batched.stored single.stored ∧ OwnCorrelation requests batched.stored ∧
    Agree requests (batched.published.map Prod.fst) (single.published.map Prod.fst) ∧
    batched.published.map Prod.snd = single.published.map Prod.snd

def IngestEventRequest.content (r : IngestEventRequest) : Content where
  source := r.source
  type := r.type
  subject := r.subject
  data := r.data
  dataContentType := r.dataContentType
  schemaURL := r.schemaURL
  metadata := r.metadata
  correlationID := if r.correlationID = "" then none else some r.correlationID
  causationID := r.causationID
  partitionKey := r.partitionKey
  priority := if 0 < r.priority ∧ r.priority ≤ priorityCritical then r.priority else priorityMedium

theorem BuiltFrom.correlationID {correlationID : String} {request : IngestEventRequest} {event : Event}
    (built : BuiltFrom correlationID request event) : event.correlationID = correlationID := by
  obtain ⟨timestamp, createdAt, start, -, rfl⟩ := built
  rfl

/-- Apart from the correlation ID it is given, an entity has the content of its request. -/
theorem contentFor_toEntity {request : IngestEventRequest} {id : String} {timestamp createdAt : Time}
    {start : Event} (entity : request.toEntity id timestamp createdAt = .ok start) (correlationID : String) :
    contentFor request (start.withCorrelation correlationID request.causationID) =
      { request.content with
        correlationID := if request.correlationID = "" then none else some correlationID } := by
  have checked := IngestEventRequest.checked_of_toEntity entity
  unfold IngestEventRequest.toEntity at entity
  rw [Event.newEvent_ok timestamp createdAt checked] at entity
  cases entity
  rw [request.applyOptional_new rfl rfl rfl rfl]
  simp only [contentFor, IngestEventRequest.content, Event.withCorrelation, Event.withPriority,
    Event.withPartitionKey, Event.withMetadata, Event.withSchemaURL, Finmap.union_empty]

/-- A built event has the content of its request, if it was given that request's own
correlation ID. -/
theorem BuiltFrom.content {correlationID : String} {request : IngestEventRequest} {event : Event}
    (built : BuiltFrom correlationID request event)
    (own : request.correlationID ≠ "" → correlationID = request.correlationID) :
    contentFor request event = request.content := by
  obtain ⟨timestamp, createdAt, start, entity, rfl⟩ := built
  rw [contentFor_toEntity entity]
  by_cases empty : request.correlationID = ""
  · simp [IngestEventRequest.content, empty]
  · simp [IngestEventRequest.content, own empty]

theorem Account.Chosen.own {σ : Type} {ports : Ports σ} {given chosen : String}
    (choice : Account.Chosen ports given chosen) (named : given ≠ "") : chosen = given := by
  obtain ⟨state, after, ran⟩ := choice
  rw [Ports.correlationOr, if_neg named] at ran
  cases ran
  rfl

def steadyAccount {σ : Type} {ports : Ports σ} (steady : ports.NeverFails) : Account ports.journal where
  done stored published journal := journal.stored = stored ∧ journal.published = published
  refused _ _ _ _ _ := True
  unstored _ _ _ := False
  unpublished _ _ _ _ := False
  now _ _ _ reached := reached
  validate stored published schemaURL data := by
    simp only [Ports.journal]
    apply Journal.noting_spec
    · exact fun journal env reached => reached
    · exact fun _ _ _ _ _ => trivial
  store stored published event := by
    simp only [Ports.journal]
    apply Journal.noting_spec
    · exact fun journal env reached => ⟨congrArg (· ++ [event]) reached.1, reached.2⟩
    · intro journal err env failed reached
      obtain ⟨after, kept⟩ := steady.store event journal.env
      rw [kept] at failed
      cases failed
  publish stored published event topic := by
    simp only [Ports.journal]
    apply Journal.noting_spec
    · exact fun journal env reached => ⟨reached.1, congrArg (· ++ [(event, topic)]) reached.2⟩
    · intro journal err env failed reached
      obtain ⟨after, sent⟩ := steady.publish event topic journal.env
      rw [sent] at failed
      cases failed

/-- The event is what a call of `IngestEvent` builds from the request. -/
def BuiltAlone {σ : Type} (ports : Ports σ) (request : IngestEventRequest) (event : Event) : Prop :=
  ∃ correlationID, Account.Chosen ports.journal request.correlationID correlationID ∧
    BuiltFrom correlationID request event

def SingleDone {σ : Type} {ports : Ports σ} (steady : ports.NeverFails) (requests : List IngestEventRequest)
    (journal : Journal σ) : Prop :=
  ∃ events, List.Forall₂ (BuiltAlone ports) requests events ∧
    (steadyAccount steady).done events (events.map publication) journal

theorem steadyAccount_accepts {σ : Type} {ports : Ports σ} (steady : ports.NeverFails)
    {request : IngestEventRequest} (free : request.Valid ∧ request.schemaURL = "")
    {stored : List Event} {published : List (Event × String)} {journal : Journal σ} :
    ¬(steadyAccount steady).Rejected request stored published journal := by
  rintro (⟨invalid, -⟩ | ⟨schema, -⟩)
  · exact invalid free.1
  · exact schema free.2

section Steady
variable {σ : Type} {ports : Ports σ} (steady : ports.NeverFails) {requests : List IngestEventRequest}
  (free : ∀ request ∈ requests, request.Valid ∧ request.schemaURL = "")
include steady free

/-- The batch stores and publishes one event for each request, all under one correlation ID. -/
theorem batch_complete (env : σ) :
    ∃ correlationID events,
      (∀ first ∈ requests.head?, Account.Chosen ports.journal first.correlationID correlationID) ∧
      List.Forall₂ (BuiltFrom correlationID) requests events ∧
      (ports.journal.ingestEventBatch requests (Journal.start env)).2.stored = events ∧
      (ports.journal.ingestEventBatch requests (Journal.start env)).2.published =
        events.map publication := by
  have total := ((steadyAccount steady).ingestEventBatch_spec requests).failing (fun journal failed =>
    show False by
      cases failed with
      | invalid request member rejected => exact steadyAccount_accepts steady (free request member) rejected
      | unstored correlationID events done built part short failed => exact failed
      | unpublished correlationID events done event built part failed => exact failed)
  have fresh : (steadyAccount steady).done [] [] (Journal.start env) := ⟨rfl, rfl⟩
  obtain ⟨eventIDs, after, ran, correlationID, events, chosen, built, -, stored, published⟩ :=
    total.succeeds fresh
  rw [ran]
  exact ⟨correlationID, events, chosen, built, stored, published⟩

theorem ingestEvent_step {done : List IngestEventRequest} {request : IngestEventRequest}
    (member : request ∈ requests) :
    Triple (SingleDone steady done) (ports.journal.ingestEvent request >>= fun _ => pure ())
      (fun _ => SingleDone steady (done ++ [request])) (fun _ => False) := by
  rintro journal ⟨events, built, reached⟩
  have call := (steadyAccount steady).ingestEvent_spec events (events.map publication) request
  have total := call.failing (fun journal failed => show False by
    cases failed with
    | invalid rejected => exact steadyAccount_accepts steady (free request member) rejected
    | unstored failed => exact failed
    | unpublished correlationID event built failed => exact failed)
  refine total.bind (fun _ => Triple.pure (fun after finished => ?_)) journal reached
  obtain ⟨correlationID, event, chosen, own, -, shown⟩ := finished
  refine ⟨events ++ [event], List.rel_append built (.cons ⟨correlationID, chosen, own⟩ .nil), ?_⟩
  rwa [List.map_append]

/-- The single calls do so too, each under a correlation ID chosen for its own request. -/
theorem single_complete (env : σ) :
    ∃ events, List.Forall₂ (BuiltAlone ports) requests events ∧
      (ports.journal.ingestEach requests (Journal.start env)).2.stored = events ∧
      (ports.journal.ingestEach requests (Journal.start env)).2.published = events.map publication := by
  have loop := Triple.eachFrom (SingleDone steady) requests (fun index done request part =>
    ingestEvent_step steady free (part.subset (List.mem_append_right done List.mem_cons_self))) 0
  have fresh : SingleDone steady [] (Journal.start env) := ⟨[], .nil, rfl, rfl⟩
  obtain ⟨_, after, ran, events, built, stored, published⟩ := loop.succeeds fresh
  refine ⟨events, built, ?_, ?_⟩
  · rw [Ports.ingestEach, ran]
    exact stored
  · rw [Ports.ingestEach, ran]
    exact published

end Steady

theorem contents_eq {requests : List IngestEventRequest} {events : List Event}
    (same : List.Forall₂ (fun request event => contentFor request event = request.content) requests events) :
    List.zipWith contentFor requests events = requests.map IngestEventRequest.content := by
  induction same with
  | nil => rfl
  | cons own _ ih => exact congrArg₂ List.cons own ih

theorem topics_eq {requests : List IngestEventRequest} {events : List Event}
    (same : List.Forall₂ (fun request event => event.eventType = request.type) requests events) :
    (events.map publication).map Prod.snd = requests.map (fun request => "events." ++ request.type) := by
  induction same with
  | nil => rfl
  | cons own _ ih => exact congrArg₂ List.cons (congrArg ("events." ++ ·) own) ih

theorem exists_of_forall₂ {α β : Type} {first second : α → β → Prop} {left : List α} {right : List β}
    (one : List.Forall₂ first left right) (two : List.Forall₂ second left right) :
    ∀ element ∈ left, ∃ other, first element other ∧ second element other := by
  induction one with
  | nil => simp
  | cons own _ ih =>
    cases two with
    | cons own' rest =>
      intro element member
      rcases List.mem_cons.mp member with rfl | later
      · exact ⟨_, own, own'⟩
      · exact ih rest element later

def constantPorts (clock : Time) : Ports Unit where
  now _ := (clock, ())
  store _ := pure ()
  publish _ _ := pure ()
  validate _ _ := pure ()

theorem constantPorts_neverFail (clock : Time) : (constantPorts clock).NeverFails where
  store _ _ := ⟨(), rfl⟩
  publish _ _ _ := ⟨(), rfl⟩

theorem chosen_constant {clock : Time} {chosen : String}
    (choice : Account.Chosen (constantPorts clock).journal "" chosen) :
    chosen = idText clock clock := by
  obtain ⟨state, after, ran⟩ := choice
  cases ran
  rfl

/-- For valid requests without a schema, the batch agrees with the single calls exactly
when no request brings a correlation ID other than that of the first. -/
theorem batchAgrees_iff (requests : List IngestEventRequest)
    (free : ∀ request ∈ requests, request.Valid ∧ request.schemaURL = "") :
    BatchAgrees requests ↔ ∀ first ∈ requests.head?, ∀ request ∈ requests,
      request.correlationID ≠ "" → request.correlationID = first.correlationID := by
  constructor
  · intro agrees first head request member named
    have chosen (clock : Time) :
        Account.Chosen (constantPorts clock).journal first.correlationID request.correlationID := by
      have steady := constantPorts_neverFail clock
      obtain ⟨-, owns, -⟩ := agrees Unit (constantPorts clock) steady () ()
      obtain ⟨correlationID, events, choice, built, rfl, -⟩ := batch_complete steady free ()
      obtain ⟨event, made, own⟩ := exists_of_forall₂ built owns request member
      rw [← own named, made.correlationID]
      exact choice first head
    by_cases empty : first.correlationID = ""
    · rw [empty] at chosen
      have clash := (chosen_constant (chosen 0)).symm.trans (chosen_constant (chosen 1))
      exact absurd clash (by decide)
    · exact (chosen 0).own empty
  · intro shared σ ports steady env env' batched single
    obtain ⟨correlationID, events, choice, built, stored, published⟩ := batch_complete steady free env
    obtain ⟨events', built', stored', published'⟩ := single_complete steady free env'
    have owns : ∀ request ∈ requests, request.correlationID ≠ "" → correlationID = request.correlationID := by
      intro request member named
      cases requests with
      | nil => cases member
      | cons first rest =>
        have same := shared first rfl request member named
        rw [same] at named ⊢
        exact (choice first rfl).own named
    have both := (List.forall₂_and_left _ _).mpr ⟨owns, built⟩
    have contents := contents_eq (both.imp (fun _ _ made => made.2.content made.1))
    have contents' := contents_eq (built'.imp (fun request event made => by
      obtain ⟨chosen, choice, made⟩ := made
      exact made.content choice.own))
    have topics := topics_eq (built.imp (fun _ _ made => made.type))
    have topics' := topics_eq (built'.imp (fun request event made => by
      obtain ⟨chosen, choice, made⟩ := made
      exact made.type))
    have agree : Agree requests events events' :=
      ⟨built.length_eq.symm, built'.length_eq.symm, contents.trans contents'.symm⟩
    have bare (events : List Event) : (events.map publication).map Prod.fst = events := by
      simp [publication, Function.comp_def]
    have own : OwnCorrelation requests events :=
      both.imp (fun _ _ made named => made.2.correlationID.trans (made.1 named))
    subst stored stored'
    refine ⟨agree, own, ?_, ?_⟩
    · rw [published, published', bare, bare]
      exact agree
    · rw [published, published']
      exact topics.trans topics'.symm

def sampleRequest (correlationID : String) : IngestEventRequest where
  source := "orders"
  type := "order.created"
  subject := "/orders/1"
  data := [0x31]
  dataContentType := "application/json"
  schemaURL := ""
  metadata := ∅
  correlationID := correlationID
  causationID := ""
  partitionKey := ""
  priority := 0

theorem batchAgrees_shared : BatchAgrees [sampleRequest "a", sampleRequest "", sampleRequest "a"] :=
  (batchAgrees_iff _ (by decide)).mpr (by decide)

/-- Two valid requests with correlation IDs of their own: the batch stores both events
under the first one's. -/
theorem batch_overwrites_correlation :
    let requests := [sampleRequest "a", sampleRequest "b"]
    let batched := ((constantPorts 0).journal.ingestEventBatch requests (Journal.start ())).2
    let single := ((constantPorts 0).journal.ingestEach requests (Journal.start ())).2
    (∀ request ∈ requests, request.Valid ∧ request.schemaURL = "") ∧
      batched.stored.map Event.correlationID = ["a", "a"] ∧
      single.stored.map Event.correlationID = ["a", "b"] ∧ ¬BatchAgrees requests := by
  refine ⟨by decide, by decide, by decide, fun agrees => ?_⟩
  obtain ⟨⟨-, -, same⟩, -⟩ := agrees Unit (constantPorts 0) (constantPorts_neverFail 0) () ()
  exact absurd same (by decide)

end EventGateway.Ingest
