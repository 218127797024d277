import EventGateway.Domain.Event
import EventGateway.Lib.Effect

/-! The ingestion service. Its clock, event store, publisher and schema validator are
ports on an arbitrary state, so that each may fail at any call. Logging and metrics
are left out. -/

namespace EventGateway.Ingest
open Lib Lib.Effect

structure IngestEventRequest where
  source : String
  type : String
  subject : String
  data : Bytes
  dataContentType : String
  schemaURL : String
  metadata : StringMap
  correlationID : String
  causationID : String
  partitionKey : String
  priority : Int64
  deriving DecidableEq

namespace IngestEventRequest

/-- The optional fields of `ToEntity`, applied in its order. -/
def applyOptional (r : IngestEventRequest) (event : Event) : Event :=
  let event := if r.schemaURL ≠ "" then event.withSchemaURL r.schemaURL else event
  let event := if r.metadata ≠ ∅ then event.withMetadata r.metadata else event
  let event := if r.correlationID ≠ "" ∨ r.causationID ≠ "" then
    event.withCorrelation r.correlationID r.causationID else event
  let event := if r.partitionKey ≠ "" then event.withPartitionKey r.partitionKey else event
  if 0 < r.priority ∧ r.priority ≤ priorityCritical then event.withPriority r.priority else event

def toEntity (r : IngestEventRequest) (id : String) (timestamp createdAt : Time) :
    Except String Event :=
  (Event.newEvent id r.source r.type r.subject r.data r.dataContentType timestamp createdAt).map
    r.applyOptional

def Valid (r : IngestEventRequest) : Prop :=
  r.source ≠ "" ∧ r.type ≠ "" ∧ r.data ≠ [] ∧ r.dataContentType ≠ ""

instance (r : IngestEventRequest) : Decidable r.Valid :=
  inferInstanceAs (Decidable (_ ∧ _))

end IngestEventRequest

structure Ports (σ : Type) where
  now : σ → Time × σ
  store : Event → Effect σ Unit
  publish : Event → String → Effect σ Unit
  validate : String → Bytes → Effect σ Unit

namespace Ports
variable {σ : Type}

def generateID (ports : Ports σ) : Effect σ String := do
  let first ← observe ports.now
  let second ← observe ports.now
  pure (idText first second)

def validateSchema (ports : Ports σ) (schemaURL : String) (data : Bytes) : Effect σ Unit :=
  wrap "schema validation failed: " (ports.validate schemaURL data)

def validateAndEnrichEvent (ports : Ports σ) (request : IngestEventRequest)
    (eventID correlationID : String) : Effect σ Event := do
  let timestamp ← observe ports.now
  let createdAt ← observe ports.now
  match request.toEntity eventID timestamp createdAt with
  | .error err => fail ("invalid event request: " ++ err)
  | .ok event =>
    let event := event.withCorrelation correlationID request.causationID
    if request.schemaURL ≠ "" then
      ports.validateSchema request.schemaURL request.data
      pure event
    else pure event

def storeAndPublish (ports : Ports σ) (event : Event) (eventType : String) : Effect σ Event := do
  wrap "failed to store event: " (ports.store event)
  wrap "failed to publish event: " (ports.publish event ("events." ++ eventType))
  pure event

def correlationOr (ports : Ports σ) (correlationID : String) : Effect σ String :=
  if correlationID = "" then ports.generateID else pure correlationID

def ingestEvent (ports : Ports σ) (request : IngestEventRequest) : Effect σ String := do
  let eventID ← ports.generateID
  let correlationID ← ports.correlationOr request.correlationID
  let event ← ports.validateAndEnrichEvent request eventID correlationID
  let _ ← ports.storeAndPublish event request.type
  pure eventID

def prepareBatchEvent (ports : Ports σ) (correlationID : String) (index : Nat)
    (request : IngestEventRequest) : Effect σ (Event × String) := do
  let eventID ← ports.generateID
  let event ← wrap s!"invalid event at index {index}: "
    (ports.validateAndEnrichEvent request eventID correlationID)
  pure (event, eventID)

def prepareBatchEvents (ports : Ports σ) (requests : List IngestEventRequest)
    (correlationID : String) : Effect σ (List Event × List String) := do
  let prepared ← collectFrom (ports.prepareBatchEvent correlationID) 0 requests
  pure (prepared.map Prod.fst, prepared.map Prod.snd)

def storeBatchEvents (ports : Ports σ) (events : List Event) : Effect σ Unit :=
  eachFrom (fun index event => wrap s!"failed to store event at index {index}: " (ports.store event))
    0 events

def publishBatchEvents (ports : Ports σ) (events : List Event) : Effect σ Unit :=
  eachFrom (fun index event => wrap s!"failed to publish event at index {index}: "
    (ports.publish event ("events." ++ event.eventType))) 0 events

def ingestEventBatch (ports : Ports σ) (requests : List IngestEventRequest) :
    Effect σ (List String) :=
  match requests with
  | [] => pure []
  | first :: _ => do
      let correlationID ← ports.correlationOr first.correlationID
      let (events, eventIDs) ← ports.prepareBatchEvents requests correlationID
      ports.storeBatchEvents events
      ports.publishBatchEvents events
      pure eventIDs

end Ports

section Clock
variable {σ : Type} {ports : Ports σ} {holds failed : σ → Prop}

/-! What the clock keeps, the IDs that are generated from it keep. -/

theorem now_kept (clock : ∀ state, holds state → holds (ports.now state).2) :
    Triple holds (observe ports.now) (fun _ => holds) failed :=
  Triple.observe clock

theorem generateID_kept (clock : ∀ state, holds state → holds (ports.now state).2) :
    Triple holds ports.generateID (fun eventID state => eventID ≠ "" ∧ holds state) failed := by
  apply (now_kept clock).bind
  intro first
  apply (now_kept clock).bind
  intro second
  exact Triple.pure (fun _ kept => ⟨idText_ne first second, kept⟩)

theorem correlationOr_kept (clock : ∀ state, holds state → holds (ports.now state).2) (given : String) :
    Triple holds (ports.correlationOr given) (fun _ => holds) failed := by
  unfold Ports.correlationOr
  split
  next => exact (generateID_kept clock).weaken (fun _ _ kept => kept.2) (fun _ => id)
  next => exact Triple.pure (fun _ kept => kept)

end Clock

def BuiltFrom (correlationID : String) (request : IngestEventRequest) (event : Event) : Prop :=
  ∃ timestamp createdAt start, request.toEntity event.id timestamp createdAt = .ok start ∧
    event = start.withCorrelation correlationID request.causationID

namespace IngestEventRequest

/-- On a new event the optional fields become those of the request, except for the priority. -/
theorem applyOptional_new (r : IngestEventRequest) {event : Event} (noSchema : event.schemaURL = "")
    (noCorrelation : event.correlationID = "") (noCausation : event.causationID = "")
    (noKey : event.partitionKey = "") : r.applyOptional event =
      ((((event.withSchemaURL r.schemaURL).withMetadata r.metadata).withCorrelation r.correlationID
        r.causationID).withPartitionKey r.partitionKey).withPriority
        (if 0 < r.priority ∧ r.priority ≤ priorityCritical then r.priority else event.priority) := by
  simp only [applyOptional]
  rw [Event.withSchemaURL_unless noSchema, Event.withMetadata_unless, Event.withCorrelation_unless,
    Event.withPartitionKey_unless]
  · split <;> rfl
  · exact noKey
  · exact noCorrelation
  · exact noCausation

section Entities
variable {r : IngestEventRequest} {id : String} {timestamp createdAt : Time} {event : Event}

theorem checked_of_toEntity (built : r.toEntity id timestamp createdAt = .ok event) :
    validateFields id r.source r.type r.data r.dataContentType = .ok () := by
  cases checked : validateFields id r.source r.type r.data r.dataContentType with
  | error err =>
    rw [toEntity, Event.newEvent_error timestamp createdAt checked] at built
    cases built
  | ok => rfl

theorem toEntity_ok (built : r.toEntity id timestamp createdAt = .ok event) :
    event.id = id ∧ event.eventType = r.type ∧ r.Valid := by
  have checked := checked_of_toEntity built
  rw [toEntity, Event.newEvent_ok timestamp createdAt checked] at built
  cases built
  rw [r.applyOptional_new rfl rfl rfl rfl]
  exact ⟨rfl, rfl, (validateFields_ok.mp checked).2⟩

theorem toEntity_of_valid (valid : r.Valid) (named : id ≠ "") (timestamp createdAt : Time) :
    ∃ event, r.toEntity id timestamp createdAt = .ok event := by
  rw [toEntity, Event.newEvent_ok timestamp createdAt (validateFields_ok.mpr ⟨named, valid⟩)]
  exact ⟨_, rfl⟩

theorem not_valid_of_toEntity {err : String} (failed : r.toEntity id timestamp createdAt = .error err) (named : id ≠ "") :
    ¬r.Valid := by
  intro valid
  obtain ⟨event, built⟩ := toEntity_of_valid valid named timestamp createdAt
  cases built.symm.trans failed

end Entities

end IngestEventRequest

theorem BuiltFrom.type {correlationID : String} {request : IngestEventRequest} {event : Event}
    (built : BuiltFrom correlationID request event) : event.eventType = request.type := by
  obtain ⟨timestamp, createdAt, start, entity, rfl⟩ := built
  exact (IngestEventRequest.toEntity_ok entity).2.1

theorem BuiltFrom.valid {correlationID : String} {request : IngestEventRequest} {event : Event}
    (built : BuiltFrom correlationID request event) : request.Valid := by
  obtain ⟨timestamp, createdAt, start, entity, rfl⟩ := built
  exact (IngestEventRequest.toEntity_ok entity).2.2

/-- The two results of preparing a batch, from what each turn makes of its request. -/
theorem prepared_each {correlationID : String} {requests : List IngestEventRequest} {made : List (Event × String)}
    (each : List.Forall₂ (fun request made => BuiltFrom correlationID request made.1 ∧ made.1.id = made.2)
      requests made) :
    List.Forall₂ (BuiltFrom correlationID) requests (made.map Prod.fst) ∧
      made.map Prod.snd = (made.map Prod.fst).map Event.id := by
  induction each with
  | nil => exact ⟨.nil, rfl⟩
  | cons own _ ih => exact ⟨.cons own.1 ih.1, congrArg₂ List.cons own.2.symm ih.2⟩

def publication (event : Event) : Event × String := (event, "events." ++ event.eventType)

/-- What is known of the state when the ports have stored and published given sequences,
and when a port has just failed: the validator on this data, the publisher on this message. -/
structure Account {σ : Type} (ports : Ports σ) where
  done : List Event → List (Event × String) → σ → Prop
  refused : List Event → List (Event × String) → String → Bytes → σ → Prop
  unstored : List Event → List (Event × String) → σ → Prop
  unpublished : List Event → List (Event × String) → Event × String → σ → Prop
  now : ∀ stored published state, done stored published state →
    done stored published (ports.now state).2
  validate : ∀ stored published schemaURL data, Triple (done stored published)
    (ports.validate schemaURL data) (fun _ => done stored published) (refused stored published schemaURL data)
  store : ∀ stored published event, Triple (done stored published) (ports.store event)
    (fun _ => done (stored ++ [event]) published) (unstored stored published)
  publish : ∀ stored published event topic, Triple (done stored published)
    (ports.publish event topic) (fun _ => done stored (published ++ [(event, topic)]))
    (unpublished stored published (event, topic))

namespace Account
variable {σ : Type} {ports : Ports σ}

def Rejected (account : Account ports) (request : IngestEventRequest) (stored : List Event)
    (published : List (Event × String)) (state : σ) : Prop :=
  ¬request.Valid ∧ account.done stored published state ∨
    request.schemaURL ≠ "" ∧ account.refused stored published request.schemaURL request.data state

inductive IngestFailed (account : Account ports) (request : IngestEventRequest)
    (stored : List Event) (published : List (Event × String)) (state : σ) : Prop where
  | invalid (rejected : account.Rejected request stored published state)
  | unstored (failed : account.unstored stored published state)
  | unpublished (correlationID : String) (event : Event)
      (built : BuiltFrom correlationID request event)
      (failed : account.unpublished (stored ++ [event]) published (publication event) state)

/-- The ways in which `IngestEventBatch` fails, called after nothing was stored. -/
inductive BatchFailed (account : Account ports) (requests : List IngestEventRequest)
    (state : σ) : Prop where
  | invalid (request : IngestEventRequest) (member : request ∈ requests)
      (rejected : account.Rejected request [] [] state)
  | unstored (correlationID : String) (events done : List Event)
      (built : List.Forall₂ (BuiltFrom correlationID) requests events) (part : done <+: events)
      (short : done.length < events.length) (failed : account.unstored done [] state)
  | unpublished (correlationID : String) (events done : List Event) (event : Event)
      (built : List.Forall₂ (BuiltFrom correlationID) requests events) (part : done ++ [event] <+: events)
      (failed : account.unpublished events (done.map publication) (publication event) state)

def Chosen (ports : Ports σ) (given chosen : String) : Prop :=
  ∃ state after, ports.correlationOr given state = (.ok chosen, after)

section Calls
variable (account : Account ports) (stored : List Event) (published : List (Event × String))

theorem now_spec (failed : σ → Prop) : Triple (account.done stored published) (observe ports.now)
    (fun _ => account.done stored published) failed :=
  now_kept (account.now stored published)

theorem generateID_spec (failed : σ → Prop) : Triple (account.done stored published) ports.generateID
    (fun id state => id ≠ "" ∧ account.done stored published state) failed :=
  generateID_kept (account.now stored published)

theorem correlationOr_spec (given : String) (failed : σ → Prop) :
    Triple (account.done stored published) (ports.correlationOr given)
      (fun chosen state => Chosen ports given chosen ∧ account.done stored published state) failed := by
  intro state start
  have kept : Triple (account.done stored published) (ports.correlationOr given)
      (fun _ => account.done stored published) failed := correlationOr_kept (account.now stored published) given
  have result := kept state start
  rcases ran : ports.correlationOr given state with ⟨err | chosen, after⟩
  · rw [ran] at result
    exact result
  · rw [ran] at result
    exact ⟨⟨state, after, ran⟩, result⟩

theorem validateAndEnrichEvent_spec (request : IngestEventRequest) {eventID : String}
    (named : eventID ≠ "") (correlationID : String) :
    Triple (account.done stored published)
      (ports.validateAndEnrichEvent request eventID correlationID)
      (fun event state => (BuiltFrom correlationID request event ∧ event.id = eventID) ∧
        account.done stored published state)
      (account.Rejected request stored published) := by
  refine (account.now_spec stored published _).bind (fun timestamp => ?_)
  refine (account.now_spec stored published _).bind (fun createdAt => ?_)
  cases entity : request.toEntity eventID timestamp createdAt with
  | error err =>
    exact Triple.fail (fun state reached => .inl ⟨IngestEventRequest.not_valid_of_toEntity entity named, reached⟩)
  | ok start =>
    have id : start.id = eventID := (IngestEventRequest.toEntity_ok entity).1
    have built : BuiltFrom correlationID request
        (start.withCorrelation correlationID request.causationID) :=
      ⟨timestamp, createdAt, start, by rw [← id] at entity; exact entity, rfl⟩
    by_cases schema : request.schemaURL ≠ ""
    · simp only [if_pos schema]
      have checked := account.validate stored published request.schemaURL request.data
      refine (checked.failing (fun _ refused => .inr ⟨schema, refused⟩)).wrap.bind (fun _ => ?_)
      exact Triple.pure (fun _ reached => ⟨⟨built, id⟩, reached⟩)
    · simp only [if_neg schema]
      exact Triple.pure (fun _ reached => ⟨⟨built, id⟩, reached⟩)

theorem storeAndPublish_spec {request : IngestEventRequest} {correlationID : String} {event : Event}
    (built : BuiltFrom correlationID request event) :
    Triple (account.done stored published) (ports.storeAndPublish event request.type)
      (fun _ => account.done (stored ++ [event]) (published ++ [publication event]))
      (account.IngestFailed request stored published) := by
  have topic : (event, "events." ++ request.type) = publication event := by
    rw [publication, built.type]
  have sending := account.publish (stored ++ [event]) published event ("events." ++ request.type)
  rw [topic] at sending
  refine ((account.store stored published event).failing (fun _ => .unstored)).wrap.bind (fun _ => ?_)
  refine (sending.failing (fun _ => .unpublished correlationID event built)).wrap.bind (fun _ => ?_)
  exact Triple.pure (fun _ reached => reached)

theorem ingestEvent_spec (request : IngestEventRequest) :
    Triple (account.done stored published) (ports.ingestEvent request)
      (fun eventID state => ∃ correlationID event, Chosen ports request.correlationID correlationID ∧
        BuiltFrom correlationID request event ∧ event.id = eventID ∧
        account.done (stored ++ [event]) (published ++ [publication event]) state)
      (account.IngestFailed request stored published) := by
  refine (account.generateID_spec stored published _).bind
    (fun eventID => Triple.given (fun named => ?_))
  refine (account.correlationOr_spec stored published _ _).bind
    (fun correlationID => Triple.given (fun chosen => ?_))
  have enriched := account.validateAndEnrichEvent_spec stored published request named correlationID
  refine (enriched.failing (fun _ => .invalid)).bind
    (fun event => Triple.given (fun made => ?_))
  refine (account.storeAndPublish_spec stored published made.1).bind (fun _ => ?_)
  exact Triple.pure (fun state reached => ⟨correlationID, event, chosen, made.1, made.2, reached⟩)

end Calls

section Batch
variable (account : Account ports)

theorem prepareBatchEvent_spec (correlationID : String) (index : Nat) (request : IngestEventRequest) :
    Triple (account.done [] []) (ports.prepareBatchEvent correlationID index request)
      (fun made state => (BuiltFrom correlationID request made.1 ∧ made.1.id = made.2) ∧
        account.done [] [] state)
      (account.Rejected request [] []) := by
  refine (account.generateID_spec [] [] _).bind (fun eventID => Triple.given (fun named => ?_))
  have enriched := account.validateAndEnrichEvent_spec [] [] request named correlationID
  exact enriched.wrap.bind (fun event => Triple.pure (fun _ made => made))

theorem prepareBatchEvents_spec (requests : List IngestEventRequest) (correlationID : String) :
    Triple (account.done [] []) (ports.prepareBatchEvents requests correlationID)
      (fun made state => (List.Forall₂ (BuiltFrom correlationID) requests made.1 ∧
        made.2 = made.1.map Event.id) ∧ account.done [] [] state)
      (account.BatchFailed requests) := by
  have loop := Triple.collectFrom
    (fun request (made : Event × String) =>
      BuiltFrom correlationID request made.1 ∧ made.1.id = made.2) requests
    (fun index request member =>
      (account.prepareBatchEvent_spec correlationID index request).failing
        (fun _ rejected => BatchFailed.invalid request member rejected)) 0
  exact loop.bind (fun made => Triple.given (fun each =>
    Triple.pure (fun state reached => ⟨prepared_each each, reached⟩)))

theorem storeBatchEvents_spec {requests : List IngestEventRequest} {correlationID : String}
    {events : List Event} (built : List.Forall₂ (BuiltFrom correlationID) requests events) :
    Triple (account.done [] []) (ports.storeBatchEvents events) (fun _ => account.done events [])
      (account.BatchFailed requests) := by
  refine Triple.eachFrom (fun done => account.done done []) events
    (fun index done event part =>
      (Triple.failing (account.store done [] event) (fun state failed => ?_)).wrap) 0
  have short : done.length < events.length := by
    have bound := part.length_le
    simp only [List.length_append, List.length_singleton] at bound
    omega
  exact .unstored correlationID events done built ((List.prefix_append _ _).trans part) short failed

theorem publishBatchEvents_spec {requests : List IngestEventRequest} {correlationID : String}
    {events : List Event} (built : List.Forall₂ (BuiltFrom correlationID) requests events) :
    Triple (account.done events []) (ports.publishBatchEvents events)
      (fun _ => account.done events (events.map publication)) (account.BatchFailed requests) := by
  refine Triple.eachFrom (fun done => account.done events (done.map publication)) events
    (fun index done event part => (Triple.weaken (account.publish events (done.map publication) event _)
      (fun _ _ kept => ?_) (fun state failed => ?_)).wrap) 0
  · rw [List.map_append]
    exact kept
  · exact .unpublished correlationID events done event built part failed

/-- A success has stored and published every event, under a correlation ID chosen from
the first request. -/
theorem ingestEventBatch_spec (requests : List IngestEventRequest) :
    Triple (account.done [] []) (ports.ingestEventBatch requests)
      (fun eventIDs state => ∃ correlationID events,
        (∀ first ∈ requests.head?, Chosen ports first.correlationID correlationID) ∧
        List.Forall₂ (BuiltFrom correlationID) requests events ∧ eventIDs = events.map Event.id ∧
        account.done events (events.map publication) state)
      (account.BatchFailed requests) := by
  cases requests with
  | nil => exact Triple.pure (fun state reached => ⟨"", [], by simp, .nil, rfl, reached⟩)
  | cons first rest =>
    refine (account.correlationOr_spec [] [] _ _).bind
      (fun correlationID => Triple.given (fun chosen => ?_))
    refine (account.prepareBatchEvents_spec (first :: rest) correlationID).bind
      (fun made => Triple.given (fun prepared => ?_))
    refine (account.storeBatchEvents_spec prepared.1).bind (fun _ => ?_)
    refine (account.publishBatchEvents_spec prepared.1).bind (fun _ => ?_)
    refine Triple.pure (fun state reached =>
      ⟨correlationID, made.1, ?_, prepared.1, prepared.2, reached⟩)
    intro head found
    cases found
    exact chosen

end Batch
end Account

structure Ports.Keeps {σ : Type} (ports : Ports σ) (holds : σ → Prop) : Prop where
  now : ∀ state, holds state → holds (ports.now state).2
  validate : ∀ schemaURL data, Triple holds (ports.validate schemaURL data) (fun _ => holds) holds
  store : ∀ event, Triple holds (ports.store event) (fun _ => holds) holds
  publish : ∀ event topic, Triple holds (ports.publish event topic) (fun _ => holds) holds

namespace Ports.Keeps
variable {σ : Type} {ports : Ports σ} {holds : σ → Prop}

def account (keeps : ports.Keeps holds) : Account ports where
  done _ _ := holds
  refused _ _ _ _ := holds
  unstored _ _ := holds
  unpublished _ _ _ := holds
  now _ _ := keeps.now
  validate _ _ := keeps.validate
  store _ _ := keeps.store
  publish _ _ := keeps.publish

theorem ingestEvent (keeps : ports.Keeps holds) (request : IngestEventRequest) :
    Triple holds (ports.ingestEvent request) (fun _ => holds) holds := by
  apply (keeps.account.ingestEvent_spec [] [] request).weaken
  · rintro _ _ ⟨_, _, _, _, _, kept⟩
    exact kept
  · intro state failed
    cases failed with
    | invalid rejected => exact rejected.elim (·.2) (·.2)
    | unstored kept => exact kept
    | unpublished _ _ _ kept => exact kept

theorem ingestEventBatch (keeps : ports.Keeps holds) (requests : List IngestEventRequest) :
    Triple holds (ports.ingestEventBatch requests) (fun _ => holds) holds := by
  apply (keeps.account.ingestEventBatch_spec requests).weaken
  · rintro _ _ ⟨_, _, _, _, _, kept⟩
    exact kept
  · intro state failed
    cases failed with
    | invalid _ _ rejected => exact rejected.elim (·.2) (·.2)
    | unstored _ _ _ _ _ _ kept => exact kept
    | unpublished _ _ _ _ _ _ kept => exact kept

end Ports.Keeps
end EventGateway.Ingest
