import EventGateway.Api.StoredEvent
import EventGateway.Lib.Trials
import EventGateway.Replay.Index
import EventGateway.System.Serializers

/-! The way of an event through the whole gateway. Ingestion calls run at the same time, on one in-memory store and one
Kafka producer; what the producer writes to the topic is what the subscriptions fetch. The process is the one that `run`
builds, with the JSON serializer set on both sides of the topic.

Every call of a collaborator is one action of a job: a reading of the clock, `Store`, a schema validation, the check of
the breaker, one `WriteMessages`, a wait between two of them, a result that the breaker records, a response. -/

namespace EventGateway.Journey
open Lib Ingest Kafka Replay Subscription Api

/-- What one `WriteMessages` did: its result, and the partitions and offsets at which it left copies of the messages. An
attempt that fails may have left some too. -/
structure Attempt (messages : List KafkaMessage) where
  result : Except String Unit
  landed : List (KafkaMessage × Int64 × Int64)
  own : ∀ copy ∈ landed, copy.1 ∈ messages
  acknowledged : result = .ok () → ∀ message ∈ messages, ∃ place, (message, place) ∈ landed

structure World (ω : Type) where
  /-- The time that has passed when the clock is read again. -/
  pace : ω → Nat × ω
  validate : String → Bytes → Effect ω Unit
  /-- The select between two attempts: the error of a context that is done. -/
  wait : ω → Option String × ω
  writeMessages : (messages : List KafkaMessage) → ω → Attempt messages × ω
  /-- The `Send` of an ingestion stream. -/
  send : String → Effect ω Unit
  rfc3339 : Time → String
  timeString : Time → String
  describe : SerializerError → String

/-- An event that a client sent, and the first event of the batch it came in; a unary call is a batch of one. -/
structure Intake where
  leader : ProtoEvent
  submitted : ProtoEvent

/-- The last four fields are histories: the events that were taken up, those whose `Store` returned nil, the responses
that were sent with their event IDs, and the cutoff of the latest cleanup. -/
structure Relay (ω : Type) (engine : RegexpEngine) where
  world : ω
  clock : Time
  store : InMemoryEventStore
  breaker : ProducerBreaker
  topic : List Message
  gateway : Gateway engine
  received : List Intake
  stored : List Event
  answered : List (Intake × String)
  cutoff : Option Time

def World.encode {ω : Type} (world : World ω) (event : Event) : Except String Bytes :=
  (serialize world.rfc3339 (some event)).mapError world.describe

def World.producer {ω : Type} (world : World ω) (breaker : ProducerBreaker) : Producer :=
  { newProducer world.timeString with serializer := some world.encode, breaker }

section Collaborators
variable {ω α : Type} {engine : RegexpEngine} (world : World ω)

def readClock (relay : Relay ω engine) : Time × Relay ω engine :=
  let passed := world.pace relay.world
  (relay.clock + passed.1, { relay with world := passed.2, clock := relay.clock + passed.1 })

def outside (action : Effect ω α) : Effect (Relay ω engine) α := fun relay =>
  ((action relay.world).1, { relay with world := (action relay.world).2 })

/-- `Store` under its lock; the second and third reading are taken only if it cleans up. -/
def storeEvent (event : Event) : Effect (Relay ω engine) Unit := fun relay =>
  let (since, seen) := readClock world relay
  let (cleanup, cleaned) := readClock world seen
  let (stamp, stamped) := readClock world cleaned
  let clock : StoreClock := ⟨since, cleanup, stamp⟩
  let (result, store) := relay.store.store (some event) clock
  if relay.store.cleanupDue clock then
    (result, { stamped with
      store, stored := relay.stored ++ [event], cutoff := some (relay.store.cutoffTime cleanup) })
  else (result, { seen with store, stored := relay.stored ++ [event] })

def write (messages : List KafkaMessage) (relay : Relay ω engine) : Except String Unit × Relay ω engine :=
  let attempt := world.writeMessages messages relay.world
  (attempt.1.result, { relay with
    world := attempt.2
    topic := relay.topic ++ attempt.1.landed.map (fun copy => ⟨copy.2.1, copy.2.2, copy.1.value⟩) })

def await (relay : Relay ω engine) : Option String × Relay ω engine :=
  ((world.wait relay.world).1, { relay with world := (world.wait relay.world).2 })

def setting : Setting (Relay ω engine) where
  circuitOpen relay := relay.breaker.circuitOpen
  wait _ := await world
  writeMessages _ := write world
  recordSuccess relay := { relay with breaker := relay.breaker.recordSuccess }
  recordFailure relay :=
    let (now, relay) := readClock world relay
    { relay with breaker := relay.breaker.recordFailure now }

def receive (intakes : List Intake) : Effect (Relay ω engine) Unit := fun relay =>
  (.ok (), { relay with received := relay.received ++ intakes })

def acknowledge (intake : Option Intake) (eventID : String) (relay : Relay ω engine) : Relay ω engine :=
  { relay with answered := relay.answered ++ (intake.map (fun one => (one, eventID))).toList }

def respond (intake : Option Intake) (eventID : String) : Effect (Relay ω engine) Unit := fun relay =>
  match world.send eventID relay.world with
  | (.ok (), after) => (.ok (), acknowledge intake eventID { relay with world := after })
  | (.error err, after) => (.error err, { relay with world := after })

end Collaborators

section Service
variable {ω : Type} {engine : RegexpEngine} (world : World ω)

def publish (event : Event) : Trial (Relay ω engine) Unit := (world.producer .new).publish (setting world) (some event)

def now : Trial (Relay ω engine) Time := Trial.see (readClock world)

def generateID : Trial (Relay ω engine) String := do
  let first ← now world
  let second ← now world
  pure (idText first second)

def correlationOr (correlationID : String) : Trial (Relay ω engine) String :=
  if correlationID = "" then generateID world else pure correlationID

def validateSchema (schemaURL : String) (data : Bytes) : Trial (Relay ω engine) Unit :=
  Trial.wrap "schema validation failed: " (Trial.call (outside (world.validate schemaURL data)))

def validateAndEnrichEvent (request : IngestEventRequest) (eventID correlationID : String) :
    Trial (Relay ω engine) Event := do
  let timestamp ← now world
  let createdAt ← now world
  match request.toEntity eventID timestamp createdAt with
  | .error err => Trial.fail ("invalid event request: " ++ err)
  | .ok event =>
    let event := event.withCorrelation correlationID request.causationID
    if request.schemaURL ≠ "" then
      validateSchema world request.schemaURL request.data
      pure event
    else pure event

def storeAndPublish (event : Event) : Trial (Relay ω engine) Event := do
  Trial.wrap "failed to store event: " (Trial.call (storeEvent world event))
  Trial.wrap "failed to publish event: " (publish world event)
  pure event

def ingestEvent (request : IngestEventRequest) : Trial (Relay ω engine) String := do
  let eventID ← generateID world
  let correlationID ← correlationOr world request.correlationID
  let event ← validateAndEnrichEvent world request eventID correlationID
  let _ ← storeAndPublish world event
  pure eventID

def prepareBatchEvent (correlationID : String) (index : Nat) (request : IngestEventRequest) :
    Trial (Relay ω engine) (Event × String) := do
  let eventID ← generateID world
  let event ← Trial.wrap s!"invalid event at index {index}: "
    (validateAndEnrichEvent world request eventID correlationID)
  pure (event, eventID)

/-- One turn of the loop in `prepareBatchEvents`, on a pointer. -/
def preparePointer (correlationID : String) (index : Nat) :
    Option IngestEventRequest → Trial (Relay ω engine) (Event × String)
  | none => do
      let _ ← generateID world
      Trial.crash
  | some request => prepareBatchEvent world correlationID index request

def storeBatchEvents (events : List Event) : Trial (Relay ω engine) Unit :=
  Trial.eachFrom (fun index event =>
    Trial.wrap s!"failed to store event at index {index}: " (Trial.call (storeEvent world event))) 0 events

def publishBatchEvents (events : List Event) : Trial (Relay ω engine) Unit :=
  Trial.eachFrom (fun index event =>
    Trial.wrap s!"failed to publish event at index {index}: " (publish world event)) 0 events

def finishBatch (prepared : List (Event × String)) : Trial (Relay ω engine) (List String) := do
  storeBatchEvents world (prepared.map Prod.fst)
  publishBatchEvents world (prepared.map Prod.fst)
  pure (prepared.map Prod.snd)

def ingestPointers (pointers : List (Option IngestEventRequest)) : Trial (Relay ω engine) (List String) :=
  match pointers with
  | [] => pure []
  | none :: _ => Trial.crash
  | some first :: _ => do
      let correlationID ← correlationOr world first.correlationID
      let prepared ← Trial.collectFrom (preparePointer world correlationID) 0 pointers
      finishBatch world prepared

end Service

section Handler
variable {ω : Type} {engine : RegexpEngine} (world : World ω)

def intakes (requests : List ProtoIngestEventRequest) : List (Option Intake) :=
  requests.map (fun req => req.event.map (fun submitted =>
    ⟨(requests.head?.bind ProtoIngestEventRequest.event).getD submitted, submitted⟩))

def reply : Outcome Unit → Ended
  | .returned (.ok ()) => .returned (.ok ())
  | .returned (.error _) => .returned (.error ⟨.internal, "failed to ingest event"⟩)
  | .panicked => .panicked

def ingestConverted (req : ProtoIngestEventRequest) (dtoReq : IngestEventRequest) : Trial (Relay ω engine) Unit := do
  Trial.call (receive (intakes [req]).reduceOption)
  let eventID ← ingestEvent world dtoReq
  Trial.call (fun relay => (.ok (), acknowledge (intakes [req]).head?.join eventID relay))

def ingestEventCall (req : Option ProtoIngestEventRequest) : Job (Relay ω engine) Ended :=
  match req with
  | none => .done (.returned (.error ⟨.invalidArgument, "request cannot be nil"⟩))
  | some req =>
    match eventProtoToDTO (some req) with
    | none => .done (.returned (.error ⟨.invalidArgument, "failed to convert request"⟩))
    | some dtoReq => Job.bind (ingestConverted world req dtoReq) (fun outcome => .done (reply outcome))

def processBatch (requests : List ProtoIngestEventRequest) : Trial (Relay ω engine) Unit := do
  Trial.call (receive (intakes requests).reduceOption)
  let eventIDs ← ingestPointers world (toDTOs requests)
  Trial.eachFrom (fun index eventID => Trial.call (respond world (intakes requests)[index]?.join eventID)) 0 eventIDs

def afterBatch (goOn : Job (Relay ω engine) Ended) : Outcome Unit → Job (Relay ω engine) Ended
  | .returned (.ok ()) => goOn
  | .returned (.error _) => .done (.returned (.error ⟨.internal, "failed to process batch"⟩))
  | .panicked => .done .panicked

/-- The loop of `IngestEventStream` with these requests in the batch and these messages to come. -/
def streamFrom (ending : Ending) :
    List ProtoIngestEventRequest → List ProtoIngestEventRequest → Job (Relay ω engine) Ended
  | batchRequests, [] =>
    match ending with
    | .eof =>
      if batchRequests ≠ [] then
        Job.bind (processBatch world batchRequests) (afterBatch (.done (.returned (.ok ()))))
      else .done (.returned (.ok ()))
    | .failed => .done (.returned (.error ⟨.internal, "failed to read from stream"⟩))
  | batchRequests, req :: rest =>
    if batchSize ≤ (batchRequests ++ [req]).length then
      Job.bind (processBatch world (batchRequests ++ [req])) (afterBatch (streamFrom ending [] rest))
    else streamFrom ending (batchRequests ++ [req]) rest

inductive Incoming where
  | unary (req : Option ProtoIngestEventRequest)
  | stream (messages : List ProtoIngestEventRequest) (ending : Ending)

def serve : Incoming → Job (Relay ω engine) Ended
  | .unary req => ingestEventCall world req
  | .stream messages ending => streamFrom world ending [] messages

end Handler

section Machine
variable {ω : Type} {engine : RegexpEngine}

inductive Happening where
  | tick (passed : Nat)
  | autoReset
  | subscription (action : GatewayAction)

def fetchedBy : GatewayAction → Option Fetch
  | .pipe _ action => action.fetched
  | _ => none

def Relay.happen (relay : Relay ω engine) : Happening → Option (Relay ω engine)
  | .tick passed => some { relay with clock := relay.clock + passed }
  | .autoReset =>
    if relay.breaker.resetTimer.any (· ≤ relay.clock) then
      some { relay with breaker := relay.breaker.autoReset }
    else none
  | .subscription action =>
    if ∀ fetch ∈ fetchedBy action, fetch.message ∈ relay.topic then
      (relay.gateway.step jsonWiring action).map (fun gateway => { relay with gateway })
    else none

structure Relay.Fresh (relay : Relay ω engine) : Prop where
  store : relay.store = .newInMemoryEventStore System.storeRetention relay.clock
  breaker : relay.breaker = .new
  topic : relay.topic = []
  gateway : relay.gateway = .initial
  received : relay.received = []
  stored : relay.stored = []
  answered : relay.answered = []
  cutoff : relay.cutoff = none

def fatal : Ended → Bool
  | .returned _ => false
  | .panicked => true

/-- The process. A panic of a handler is its last step, since `createGRPCServer` installs nothing that recovers. -/
def relayMachine (engine : RegexpEngine) (world : World ω) :
    Machine (Crew (Relay ω engine) Ended) (CrewStep Incoming Happening) :=
  crewMachine Relay.Fresh (serve world) Relay.happen fatal

end Machine
end EventGateway.Journey
