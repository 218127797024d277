import EventGateway.Journey.Topic

/-! From the client that sends an event to the clients that subscribe. -/

namespace EventGateway.Journey
open Lib Ingest Kafka Replay Subscription Api

structure CaughtUp (state : State) : Prop where
  ongoing : ¬state.ctxDone
  idle : state.consumer.held = []
  drained : state.Drained

instance (state : State) : Decidable (CaughtUp state) :=
  decidable_of_iff (¬state.ctxDone ∧ state.consumer.held = [] ∧ state.Drained)
    ⟨fun parts => ⟨parts.1, parts.2.1, parts.2.2⟩, fun caught => ⟨caught.ongoing, caught.idle, caught.drained⟩⟩

section Pipes
variable {wiring : Wiring} {state : State} {fetched : List Fetch}

theorem CaughtUp.sent (caught : CaughtUp state) (reached : (machine wiring).Reachable state) :
    accepted wiring state.fetched = state.sent := by
  obtain ⟨enqueued, forwarded, flow⟩ := flow_of_reachable reached
  obtain ⟨broker, forwarder, out, handler⟩ := caught.drained
  have consuming : state.consuming := fun done => caught.ongoing done.1
  have whole := ((flow.consumer.comp flow.forwarder).comp flow.handler).whole
    ⟨⟨consuming, by rw [forwarder]; nofun⟩, by rw [handler]; nofun⟩
  simpa [broker, forwarder, out, handler, caught.idle, ForwarderAt.held, Subscription.HandlerAt.held] using whole

theorem accepted_whole (accepts : ∀ fetch ∈ fetched, ∃ event, judge wiring fetch = .accepts event) :
    (accepted wiring fetched).map Envelope.message = fetched.map Fetch.message := by
  induction fetched with
  | nil => rfl
  | cons fetch rest ih =>
    obtain ⟨event, verdict⟩ := accepts fetch List.mem_cons_self
    have here : acceptedOf wiring fetch = some ⟨fetch.message, event⟩ := by
      rw [acceptedOf, verdict]
    rw [accepted, List.filterMap_cons_some here, List.map_cons, List.map_cons]
    exact congrArg _ (ih (fun other member => accepts other (List.mem_cons_of_mem _ member)))

end Pipes

section Journeys
variable {ω : Type} {engine : RegexpEngine} {world : World ω} {relay : Relay ω engine}

theorem serialize_of_encode {event : Event} {value : Bytes} (encoded : world.encode event = .ok value) :
    serialize world.rfc3339 (some event) = .ok value := by
  unfold World.encode at encoded
  cases written : serialize world.rfc3339 (some event) with
  | error cause =>
    rw [written] at encoded
    cases encoded
  | ok text =>
    rw [written] at encoded
    cases encoded
    rfl

/-- Whenever a message of the topic is decoded, it gives the event that it carries. -/
theorem Traced.decodes (traced : Traced world relay) {event : Event} (kept : event ∈ relay.stored) {value : Bytes}
    (encoded : world.encode event = .ok value) (timestamp createdAt : Time) :
    ∃ decoded, deserialize value timestamp createdAt = .ok decoded ∧ Reencoded event decoded := by
  obtain ⟨intake, -, conveyed⟩ := traced.stored event kept
  exact deserialize_written (serialize_of_encode encoded) conveyed.positive timestamp createdAt

theorem Traced.accepts (traced : Traced world relay) {fetch : Fetch} (member : fetch.message ∈ relay.topic) :
    ∃ event, judge jsonWiring fetch = .accepts event ∧ ∃ intake ∈ relay.received, intake.Arrives event := by
  obtain ⟨event, kept, encoded⟩ := traced.topic fetch.message member
  obtain ⟨decoded, read, same⟩ := traced.decodes kept encoded fetch.timestamp fetch.createdAt
  obtain ⟨intake, known, conveyed⟩ := traced.stored event kept
  refine ⟨decoded, ?_, intake, known, conveyed.arrives same⟩
  simp only [judge, jsonWiring, read]

theorem Fed.pipe (fed : Fed relay) {call : Call engine} (member : call ∈ relay.gateway.calls) :
    (machine jsonWiring).Reachable call.pipe ∧ ∀ fetch ∈ call.pipe.fetched, fetch.message ∈ relay.topic := by
  obtain ⟨index, found⟩ := List.getElem?_of_mem member
  exact ⟨pipe_reachable fed.reached call member, fed.fetched index call.pipe (pipeOf_found found)⟩

end Journeys

/-! A run in which everything goes well, for concrete cases. -/

def calmWorld : World Unit where
  pace _ := (0, ())
  validate _ _ := pure ()
  wait _ := (none, ())
  writeMessages messages _ :=
    (⟨.ok (), messages.map (fun message => (message, 0, 7)), by simp, fun _ message member => ⟨(0, 7), by simpa⟩⟩, ())
  send _ := pure ()
  rfc3339 _ := "1970-01-01T00:00:00Z"
  timeString _ := "1970-01-01 00:00:00 +0000 UTC"
  describe _ := ""

def newRelay : Relay Unit .none where
  world := ()
  clock := 0
  store := .newInMemoryEventStore System.storeRetention 0
  breaker := .new
  topic := []
  gateway := .initial
  received := []
  stored := []
  answered := []
  cutoff := none

theorem newRelay_fresh : newRelay.Fresh := ⟨rfl, rfl, rfl, rfl, rfl, rfl, rfl, rfl⟩

def spacedEvent : ProtoEvent := { sampleEvent with data := [0x20, 0x31] }

def spacedEntity : Option Event := do
  let request ← eventProtoToDTO (some ⟨some spacedEvent⟩)
  let start ← (request.toEntity (idText 0 0) 0 0).toOption
  pure (start.withCorrelation (idText 0 0) "")

def spacedMessage : Message where
  partition := 0
  offset := 7
  value := (spacedEntity.bind (fun event => (calmWorld.encode event).toOption)).getD []

def calmRun : List (CrewStep Incoming Happening) :=
  .start (.unary (some ⟨some spacedEvent⟩)) :: List.replicate 12 (.advance 0) ++
  ([.subscribe (some ⟨none⟩) 1 1, .register 0, .adapter 0, .pipe 0 .poll, .pipe 0 (.fetch ⟨spacedMessage, 5, 5⟩),
    .pipe 0 .enqueue, .pipe 0 (.commit true), .pipe 0 .forwardReceive, .pipe 0 .forwardSend, .pipe 0 .handlerReceive,
    .pipe 0 .sendSucceeds].map (fun action => .disturb (.subscription action)))

theorem calmRun_reached : ∃ crew : Crew (Relay Unit .none) Ended, (relayMachine .none calmWorld).Reachable crew ∧
    (∃ call ∈ crew.shared.gateway.calls, (∃ envelope ∈ call.pipe.sent, envelope.event.data = [0x31]) ∧
      spacedMessage ∈ call.pipe.fetched.map Fetch.message ∧ CaughtUp call.pipe) ∧
    (crew.shared.topic = [spacedMessage] ∧ ∃ answer ∈ crew.shared.answered, answer.2 = idText 0 0) ∧
    (crew.shared.store.query (EventFilter.matchAll .none) (some ⟨0, 0⟩) 0).toOption = some spacedEntity.toList := by
  obtain ⟨crew, reached, found⟩ := (relayMachine .none calmWorld).reaches_of_run (fun _ _ => True) ⟨newRelay, []⟩ calmRun
    (fun crew => decide ((∃ call ∈ crew.shared.gateway.calls, (∃ envelope ∈ call.pipe.sent, envelope.event.data = [0x31]) ∧
        spacedMessage ∈ call.pipe.fetched.map Fetch.message ∧ CaughtUp call.pipe) ∧
      (crew.shared.topic = [spacedMessage] ∧ ∃ answer ∈ crew.shared.answered, answer.2 = idText 0 0) ∧
      (crew.shared.store.query (EventFilter.matchAll .none) (some ⟨0, 0⟩) 0).toOption = some spacedEntity.toList))
    ⟨newRelay_fresh, rfl⟩ (by decide +kernel)
  exact ⟨crew, reached, of_decide_eq_true found⟩

section Results
variable {ω : Type}

/-- However ingestion calls, retries, cancellations and subscriptions are interleaved: whatever a subscriber is sent is an
event that some client submitted, in every field but its data, which is compacted, and its time; and the messages it is
sent are the first ones that its consumer fetched, in that order and without a gap. -/
theorem subscriber_receives_submitted (engine : RegexpEngine) (world : World ω) (crew : Crew (Relay ω engine) Ended)
    (reached : (relayMachine engine world).Reachable crew) : ∀ call ∈ crew.shared.gateway.calls,
      (∀ envelope ∈ call.pipe.sent, ∃ intake ∈ crew.shared.received, intake.Arrives envelope.event) ∧
      call.pipe.sent.map Envelope.message <+: call.pipe.fetched.map Fetch.message := by
  obtain ⟨traced, fed⟩ := traced_of_reachable reached
  intro call member
  obtain ⟨piped, known⟩ := fed.pipe member
  obtain ⟨enqueued, forwarded, flow⟩ := flow_of_reachable piped
  have ordered := ((flow.consumer.comp flow.forwarder).comp flow.handler).ordered
  constructor
  · intro envelope sent
    obtain ⟨fetch, fetched, verdict⟩ := List.mem_filterMap.mp (ordered.subset sent)
    obtain ⟨event, accepts, intake, taken, arrives⟩ := traced.accepts (known fetch fetched)
    rw [acceptedOf, accepts] at verdict
    cases verdict
    exact ⟨intake, taken, arrives⟩
  · rw [← accepted_whole (fun fetch fetched => (traced.accepts (known fetch fetched)).imp (fun _ => And.left))]
    exact ordered.map _

theorem spaced_event_received : ∃ crew : Crew (Relay Unit .none) Ended, (relayMachine .none calmWorld).Reachable crew ∧
    ∃ call ∈ crew.shared.gateway.calls, ∃ envelope ∈ call.pipe.sent, envelope.event.data = [0x31] ∧
      ∃ intake ∈ crew.shared.received, intake.Arrives envelope.event := by
  obtain ⟨crew, reached, ⟨call, member, ⟨envelope, sent, data⟩, -⟩, -⟩ := calmRun_reached
  exact ⟨crew, reached, call, member, envelope, sent, data,
    (subscriber_receives_submitted .none calmWorld crew reached call member).1 envelope sent⟩

/-- What was acknowledged to a client is in the topic: there is a message that decodes to the event, under the ID that the
client was told, whenever it is read; and a subscription that has fetched it and has caught up has sent it. -/
theorem acknowledged_event_arrives (engine : RegexpEngine) (world : World ω) (crew : Crew (Relay ω engine) Ended)
    (reached : (relayMachine engine world).Reachable crew) : ∀ answer ∈ crew.shared.answered,
      ∃ message ∈ crew.shared.topic,
        (∀ timestamp createdAt, ∃ event, deserialize message.value timestamp createdAt = .ok event ∧
          event.id = answer.2 ∧ answer.1.Arrives event) ∧
        ∀ call ∈ crew.shared.gateway.calls, message ∈ call.pipe.fetched.map Fetch.message → CaughtUp call.pipe →
          ∃ envelope ∈ call.pipe.sent, envelope.message = message ∧ envelope.event.id = answer.2 ∧
            answer.1.Arrives envelope.event := by
  obtain ⟨traced, fed⟩ := traced_of_reachable reached
  intro answer member
  obtain ⟨event, kept, id, conveyed, message, there, encoded⟩ := traced.answered answer member
  have decodes (timestamp createdAt : Time) : ∃ decoded, deserialize message.value timestamp createdAt = .ok decoded ∧
      decoded.id = answer.2 ∧ answer.1.Arrives decoded := by
    obtain ⟨decoded, read, same⟩ := traced.decodes kept encoded timestamp createdAt
    exact ⟨decoded, read, same.id.trans id, conveyed.arrives same⟩
  refine ⟨message, there, decodes, ?_⟩
  intro call among fetched caught
  obtain ⟨piped, -⟩ := fed.pipe among
  obtain ⟨fetch, taken, rfl⟩ := List.mem_map.mp fetched
  obtain ⟨decoded, read, named, arrives⟩ := decodes fetch.timestamp fetch.createdAt
  have verdict : acceptedOf jsonWiring fetch = some ⟨fetch.message, decoded⟩ := by
    simp only [acceptedOf, judge, jsonWiring, read]
  rw [← caught.sent piped]
  exact ⟨_, List.mem_filterMap.mpr ⟨fetch, taken, verdict⟩, rfl, named, arrives⟩

theorem spaced_event_arrived : ∃ crew : Crew (Relay Unit .none) Ended, (relayMachine .none calmWorld).Reachable crew ∧
    ∃ answer ∈ crew.shared.answered, answer.2 = idText 0 0 ∧ ∃ call ∈ crew.shared.gateway.calls,
      ∃ envelope ∈ call.pipe.sent, envelope.event.id = answer.2 ∧ answer.1.Arrives envelope.event := by
  obtain ⟨crew, reached, ⟨call, member, -, fetched, caught⟩, ⟨topic, answer, answered, told⟩, -⟩ := calmRun_reached
  obtain ⟨message, there, -, arrives⟩ := acknowledged_event_arrives .none calmWorld crew reached answer answered
  rw [topic, List.mem_singleton] at there
  obtain ⟨envelope, sent, -, named, own⟩ := arrives call member (there.symm ▸ fetched) caught
  exact ⟨crew, reached, answer, answered, told, call, member, envelope, sent, named, own⟩

end Results
end EventGateway.Journey
