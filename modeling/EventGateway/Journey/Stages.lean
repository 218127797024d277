import EventGateway.Journey.Calls

/-! The stages of an ingestion call, whatever comes in between its actions. A call takes events up; what it stores was
built from one of them; what it writes to the topic it has stored; and it responds for what the broker has acknowledged. -/

namespace EventGateway.Journey
open Lib Ingest Kafka Replay Subscription Api

/-- What the client should see again: its event, under the correlation ID of the first event of the batch. -/
def Intake.wanted (intake : Intake) : ProtoEvent :=
  { intake.submitted with correlationId := intake.leader.correlationId }

def Intake.Conveyed (intake : Intake) (event : Event) : Prop := Reproduces intake.wanted (eventEntityToProto event)

structure Way where
  intakes : List Intake
  kept : List Event
  written : List Event

inductive Moves {ω : Type} {engine : RegexpEngine} (world : World ω) :
    Way → Relay ω engine → Relay ω engine → Way → Prop where
  /-- Something that the events do not depend on. -/
  | aside {way : Way} {relay : Relay ω engine} (outer : ω) (clock : Time) (breaker : ProducerBreaker)
      (later : relay.clock ≤ clock) : Moves world way relay { relay with world := outer, clock, breaker } way
  | receive {way : Way} {relay : Relay ω engine} (intakes : List Intake) :
      Moves world way relay { relay with received := relay.received ++ intakes } ⟨intakes, [], []⟩
  | store {way : Way} {relay : Relay ω engine} (intake : Intake) (event : Event) (known : intake ∈ way.intakes)
      (conveyed : intake.Conveyed event) :
      Moves world way relay (storeEvent world event relay).2 { way with kept := way.kept ++ [event] }
  | write {way : Way} {relay : Relay ω engine} (event : Event) (value : Bytes) (kept : event ∈ way.kept)
      (encoded : world.encode event = .ok value) (outer : ω) (landed : List (Int64 × Int64)) (written : List Event)
      (acknowledged : written = way.written ∨ written = way.written ++ [event] ∧ landed ≠ []) :
      Moves world way relay { relay with
        world := outer
        topic := relay.topic ++ landed.map (fun place => ⟨place.1, place.2, value⟩) } { way with written }
  | respond {way : Way} {relay : Relay ω engine} (outer : ω) (intake : Intake) (event : Event)
      (known : intake ∈ way.intakes) (written : event ∈ way.written) (conveyed : intake.Conveyed event) :
      Moves world way relay (acknowledge (some intake) event.id { relay with world := outer }) way

section Building

inductive Chooses : String → String → Prop where
  | own (given : String) (named : given ≠ "") : Chooses given given
  | made (first second : Time) : Chooses "" (idText first second)

def readings : Ports (List Time) where
  now times := (times.headD 0, times.tail)
  store _ := pure ()
  publish _ _ := pure ()
  validate _ _ := pure ()

theorem Chooses.chosen {given chosen : String} (choice : Chooses given chosen) : Account.Chosen readings given chosen := by
  cases choice with
  | own _ named =>
    refine ⟨[], [], ?_⟩
    rw [Ports.correlationOr, if_neg named]
    rfl
  | made first second => exact ⟨[first, second], [], rfl⟩

/-- The correlation ID of the request makes no difference to the entity once another one is set. -/
theorem toEntity_regardless {request : IngestEventRequest} {id : String} {timestamp createdAt : Time} {start : Event}
    (entity : request.toEntity id timestamp createdAt = .ok start) (given : String) :
    ∃ other, { request with correlationID := given }.toEntity id timestamp createdAt = .ok other ∧
      ∀ correlationID, other.withCorrelation correlationID request.causationID =
        start.withCorrelation correlationID request.causationID := by
  have checked := IngestEventRequest.checked_of_toEntity entity
  unfold IngestEventRequest.toEntity at entity ⊢
  rw [Event.newEvent_ok timestamp createdAt checked] at entity ⊢
  cases entity
  refine ⟨_, rfl, fun correlationID => ?_⟩
  rw [IngestEventRequest.applyOptional_new _ rfl rfl rfl rfl, IngestEventRequest.applyOptional_new _ rfl rfl rfl rfl]
  rfl

theorem conveyed_of_built {leader submitted : ProtoEvent} {request : IngestEventRequest} {correlationID : String}
    {event : Event} (converted : eventProtoToDTO (some ⟨some submitted⟩) = some request)
    (choice : Chooses leader.correlationId correlationID) (built : BuiltFrom correlationID request event) :
    Intake.Conveyed ⟨leader, submitted⟩ event := by
  obtain ⟨timestamp, createdAt, start, entity, same⟩ := built
  obtain ⟨other, renamed, agrees⟩ := toEntity_regardless entity leader.correlationId
  cases converted
  have wanted : BuiltFrom correlationID _ event := ⟨timestamp, createdAt, other, renamed, same.trans (agrees _).symm⟩
  exact reproduces_of_built rfl choice.chosen wanted

end Building

section Leading
variable {ω : Type} {engine : RegexpEngine} {world : World ω} {way : Way} {event : Event}

theorem leads_now : (now world : Trial (Relay ω engine) Time).Leads (Moves world) way (fun later _ => later = way) := by
  apply Trial.Leads.call
  intro relay
  exact ⟨way, .aside _ _ relay.breaker (Int.le_add_of_nonneg_right (Int.natCast_nonneg _)), fun _ _ => rfl⟩

theorem leads_generateID : (generateID world : Trial (Relay ω engine) String).Leads (Moves world) way
    (fun later eventID => later = way ∧ ∃ first second, eventID = idText first second) := by
  apply leads_now.bind
  rintro _ first rfl
  apply leads_now.bind
  rintro _ second rfl
  exact .pure ⟨rfl, first, second, rfl⟩

theorem leads_correlationOr (given : String) : (correlationOr world given : Trial (Relay ω engine) String).Leads
    (Moves world) way (fun later chosen => later = way ∧ Chooses given chosen) := by
  unfold correlationOr
  split
  next missing =>
    apply leads_generateID.mono
    rintro _ _ ⟨same, first, second, rfl⟩
    exact ⟨same, missing ▸ .made first second⟩
  next named => exact .pure ⟨rfl, .own given named⟩

theorem leads_validateSchema (schemaURL : String) (data : Bytes) :
    (validateSchema world schemaURL data : Trial (Relay ω engine) Unit).Leads (Moves world) way
      (fun later _ => later = way) := by
  apply Trial.Leads.wrap
  apply Trial.Leads.call
  intro relay
  exact ⟨way, .aside _ relay.clock relay.breaker le_rfl, fun _ _ => rfl⟩

theorem leads_validateAndEnrichEvent (request : IngestEventRequest) (eventID correlationID : String) :
    (validateAndEnrichEvent world request eventID correlationID : Trial (Relay ω engine) Event).Leads (Moves world) way
      (fun later event => later = way ∧ BuiltFrom correlationID request event ∧ event.id = eventID) := by
  apply leads_now.bind
  rintro _ timestamp rfl
  apply leads_now.bind
  rintro way createdAt rfl
  cases entity : request.toEntity eventID timestamp createdAt with
  | error err => exact .fail _
  | ok start =>
    have id := (IngestEventRequest.toEntity_ok entity).1
    have built : BuiltFrom correlationID request (start.withCorrelation correlationID request.causationID) :=
      ⟨timestamp, createdAt, start, id.symm ▸ entity, rfl⟩
    dsimp only
    split
    next =>
      apply (leads_validateSchema _ _).bind
      rintro _ _ rfl
      exact .pure ⟨rfl, built, id⟩
    next => exact .pure ⟨rfl, built, id⟩

theorem leads_receive (intakes : List Intake) : (Trial.call (receive intakes) : Trial (Relay ω engine) Unit).Leads
    (Moves world) way (fun later _ => later = ⟨intakes, [], []⟩) :=
  .call (fun _ => ⟨_, .receive intakes, fun _ _ => rfl⟩)

theorem leads_storeEvent {intake : Intake} (known : intake ∈ way.intakes) (conveyed : intake.Conveyed event) :
    (Trial.call (storeEvent world event) : Trial (Relay ω engine) Unit).Leads (Moves world) way
      (fun later _ => later = { way with kept := way.kept ++ [event] }) :=
  .call (fun _ => ⟨_, .store intake event known conveyed, fun _ _ => rfl⟩)

theorem leads_write {message : KafkaMessage} (kept : event ∈ way.kept)
    (encoded : world.encode event = .ok message.value) :
    (Trial.see (write world [message]) : Trial (Relay ω engine) _).Leads (Moves world) way (fun later result =>
      (result = .ok () → later = { way with written := way.written ++ [event] }) ∧
      ∀ err, result = .error err → later = way) := by
  apply Trial.Leads.see
  intro relay
  let attempt := (world.writeMessages [message] relay.world).1
  have copies : attempt.landed.map (fun copy => (⟨copy.2.1, copy.2.2, copy.1.value⟩ : Message)) =
      (attempt.landed.map Prod.snd).map (fun place => ⟨place.1, place.2, message.value⟩) := by
    rw [List.map_map]
    refine List.map_congr_left (fun copy member => ?_)
    rw [List.mem_singleton.mp (attempt.own copy member)]
    rfl
  have moved {written : List Event} (acknowledged : written = way.written ∨ written = way.written ++ [event] ∧
      attempt.landed.map Prod.snd ≠ []) :
      Moves world way relay (write world [message] relay).2 { way with written } := by
    have goes : Moves world way relay { relay with
        world := (world.writeMessages [message] relay.world).2
        topic := relay.topic ++ (attempt.landed.map Prod.snd).map (fun place => ⟨place.1, place.2, message.value⟩) }
        { way with written } := .write event message.value kept encoded _ _ written acknowledged
    rwa [← copies] at goes
  cases result : (write world [message] relay).1 with
  | ok value =>
    obtain ⟨place, landed⟩ := attempt.acknowledged result message List.mem_cons_self
    have some : attempt.landed.map Prod.snd ≠ [] := List.ne_nil_of_mem (List.mem_map_of_mem landed)
    exact ⟨_, moved (.inr ⟨rfl, some⟩), fun _ => rfl, nofun⟩
  | error err => exact ⟨way, moved (.inl rfl), nofun, fun _ _ => rfl⟩

theorem leads_recordFailure {way : Way} : (Trial.note (setting world).recordFailure : Trial (Relay ω engine) Unit).Leads
    (Moves world) way (fun later _ => later = way) :=
  .see (fun _ => ⟨way, .aside _ _ _ (Int.le_add_of_nonneg_right (Int.natCast_nonneg _)), rfl⟩)

theorem leads_wait (attempt : Nat) : (Producer.wait (setting world) attempt : Trial (Relay ω engine) _).Leads
    (Moves world) way (fun later _ => later = way) := by
  unfold Producer.wait
  split
  next => exact .see (fun relay => ⟨way, .aside _ relay.clock relay.breaker le_rfl, rfl⟩)
  next => exact .pure rfl

/-- The attempts write the event, and a success is one that the broker has acknowledged. -/
theorem leads_retryFrom {message : KafkaMessage} (kept : event ∈ way.kept)
    (encoded : world.encode event = .ok message.value) (failure : String) (left attempt : Nat) (lastErr : String) :
    ((world.producer .new).retryFrom (setting world) failure [message] left attempt lastErr :
      Trial (Relay ω engine) Unit).Leads (Moves world) way
        (fun later _ => later = { way with written := way.written ++ [event] }) := by
  induction left generalizing attempt lastErr with
  | zero => exact leads_recordFailure.bind (fun _ _ _ => .fail _)
  | succ left ih =>
    apply (leads_wait attempt).bind
    rintro way (- | err) rfl
    · apply (leads_write kept encoded).bind
      rintro later (err | value) ⟨delivered, failed⟩
      · cases failed err rfl
        exact ih (attempt + 1) err
      · exact .see (fun relay => ⟨later, .aside relay.world relay.clock _ le_rfl, delivered rfl⟩)
    · exact .fail err

theorem leads_publish (kept : event ∈ way.kept) : (publish world event : Trial (Relay ω engine) Unit).Leads (Moves world)
    way (fun later _ => later = { way with written := way.written ++ [event] }) := by
  have checks : (Trial.see (fun relay : Relay ω engine => (relay.breaker.circuitOpen, relay))).Leads (Moves world) way
      (fun later _ => later = way) :=
    .see (fun relay => ⟨way, .aside relay.world relay.clock relay.breaker le_rfl, rfl⟩)
  apply checks.bind
  rintro way circuitOpen rfl
  cases circuitOpen with
  | true => exact .fail _
  | false =>
    have serializer : (world.producer .new).serializer = some world.encode := rfl
    simp only [Bool.false_eq_true, if_false, serializer]
    cases encoded : world.encode event with
    | error err => exact leads_recordFailure.bind (fun _ _ _ => .fail _)
    | ok serialized => exact leads_retryFrom kept encoded _ _ 0 ""

theorem leads_storeAndPublish {intake : Intake} (known : intake ∈ way.intakes) (conveyed : intake.Conveyed event) :
    (storeAndPublish world event : Trial (Relay ω engine) Event).Leads (Moves world) way
      (fun later _ => later = ⟨way.intakes, way.kept ++ [event], way.written ++ [event]⟩) := by
  apply ((leads_storeEvent known conveyed).wrap _).bind
  rintro _ _ rfl
  have kept : event ∈ (⟨way.intakes, way.kept ++ [event], way.written⟩ : Way).kept :=
    List.mem_append_right _ List.mem_cons_self
  apply ((leads_publish kept).wrap _).bind
  rintro _ _ rfl
  exact .pure rfl

theorem leads_ingestEvent {submitted : ProtoEvent} {request : IngestEventRequest}
    (converted : eventProtoToDTO (some ⟨some submitted⟩) = some request) (known : ⟨submitted, submitted⟩ ∈ way.intakes) :
    (ingestEvent world request : Trial (Relay ω engine) String).Leads (Moves world) way
      (fun later eventID => ∃ event, later.intakes = way.intakes ∧ event ∈ later.written ∧ event.id = eventID ∧
        Intake.Conveyed ⟨submitted, submitted⟩ event) := by
  apply leads_generateID.bind
  rintro _ eventID ⟨rfl, -⟩
  apply (leads_correlationOr request.correlationID).bind
  rintro _ correlationID ⟨rfl, choice⟩
  apply (leads_validateAndEnrichEvent request eventID correlationID).bind
  rintro way event ⟨rfl, built, id⟩
  have conveyed : Intake.Conveyed ⟨submitted, submitted⟩ event := by
    apply conveyed_of_built converted _ built
    cases converted
    exact choice
  apply (leads_storeAndPublish known conveyed).bind
  rintro _ _ rfl
  exact .pure ⟨event, rfl, List.mem_append_right _ List.mem_cons_self, id, conveyed⟩

end Leading

section Batches
variable {ω : Type} {engine : RegexpEngine} {world : World ω} {way : Way}

theorem leads_preparePointer (correlationID : String) (index : Nat) (pointer : Option IngestEventRequest) :
    (preparePointer world correlationID index pointer : Trial (Relay ω engine) _).Leads (Moves world) way
      (fun later made => later = way ∧
        ∃ request, pointer = some request ∧ BuiltFrom correlationID request made.1 ∧ made.1.id = made.2) := by
  cases pointer with
  | none =>
    apply leads_generateID.bind
    intro _ _ _
    exact .crash
  | some request =>
    apply leads_generateID.bind
    rintro _ eventID ⟨rfl, -⟩
    apply ((leads_validateAndEnrichEvent request eventID correlationID).wrap _).bind
    rintro _ event ⟨rfl, built, id⟩
    exact .pure ⟨rfl, request, rfl, built, id⟩

def Made (one : Option Intake) (made : Event × String) : Prop :=
  ∃ intake, one = some intake ∧ intake.Conveyed made.1 ∧ made.1.id = made.2

theorem made_of_prepared {requests : List ProtoIngestEventRequest} {first : IngestEventRequest}
    {prepared : List (Event × String)} {correlationID : String} (leads : (toDTOs requests).head? = some (some first))
    (choice : Chooses first.correlationID correlationID)
    (built : List.Forall₂ (fun pointer made => ∃ request, pointer = some request ∧
      BuiltFrom correlationID request made.1 ∧ made.1.id = made.2) (toDTOs requests) prepared) :
    List.Forall₂ Made (intakes requests) prepared := by
  obtain ⟨leader, present, named⟩ : ∃ leader, requests.head?.bind ProtoIngestEventRequest.event = some leader ∧
      first.correlationID = leader.correlationId := by
    cases requests with
    | nil => cases leads
    | cons req rest =>
      obtain ⟨_ | leader⟩ := req
      · cases leads
      · cases leads
        exact ⟨leader, rfl, rfl⟩
  rw [named] at choice
  unfold intakes
  rw [present, List.forall₂_map_left_iff]
  rw [toDTOs, List.forall₂_map_left_iff] at built
  apply built.imp
  rintro ⟨_ | submitted⟩ made ⟨request, converted, own, id⟩
  · cases converted
  · exact ⟨⟨leader, submitted⟩, rfl, conveyed_of_built converted choice own, id⟩

theorem leads_finishBatch {known : List Intake} {prepared : List (Event × String)}
    (conveyed : ∀ made ∈ prepared, ∃ intake ∈ known, Intake.Conveyed intake made.1) :
    (finishBatch world prepared : Trial (Relay ω engine) _).Leads (Moves world) ⟨known, [], []⟩
      (fun later eventIDs => later = ⟨known, prepared.map Prod.fst, prepared.map Prod.fst⟩ ∧
        eventIDs = prepared.map Prod.snd) := by
  have stores : (storeBatchEvents world (prepared.map Prod.fst) : Trial (Relay ω engine) Unit).Leads (Moves world)
      ⟨known, [], []⟩ (fun later _ => later = ⟨known, prepared.map Prod.fst, []⟩) := by
    apply Trial.Leads.eachFrom (fun (done : List Event) (later : Way) => later = ⟨known, done, []⟩)
    · rintro index done event _ part - rfl
      obtain ⟨made, member, rfl⟩ := List.mem_map.mp (part.subset (List.mem_append_right _ List.mem_cons_self))
      obtain ⟨intake, inside, own⟩ := conveyed made member
      have here : intake ∈ (⟨known, done, []⟩ : Way).intakes := inside
      exact (leads_storeEvent here own).wrap _
    · rfl
  have publishes : (publishBatchEvents world (prepared.map Prod.fst) : Trial (Relay ω engine) Unit).Leads (Moves world)
      ⟨known, prepared.map Prod.fst, []⟩
      (fun later _ => later = ⟨known, prepared.map Prod.fst, prepared.map Prod.fst⟩) := by
    apply Trial.Leads.eachFrom (fun (done : List Event) (later : Way) => later = ⟨known, prepared.map Prod.fst, done⟩)
    · rintro index done event _ part - rfl
      have kept : event ∈ (⟨known, prepared.map Prod.fst, done⟩ : Way).kept :=
        part.subset (List.mem_append_right _ List.mem_cons_self)
      exact (leads_publish kept).wrap _
    · rfl
  apply stores.bind
  rintro _ _ rfl
  apply publishes.bind
  rintro _ _ rfl
  exact .pure ⟨rfl, rfl⟩

theorem leads_respond {intake : Intake} {event : Event} (known : intake ∈ way.intakes) (written : event ∈ way.written)
    (conveyed : intake.Conveyed event) :
    (Trial.call (respond world (some intake) event.id) : Trial (Relay ω engine) Unit).Leads (Moves world) way
      (fun later _ => later = way) := by
  apply Trial.Leads.call
  intro relay
  refine ⟨way, ?_, fun _ _ => rfl⟩
  unfold respond
  rcases world.send event.id relay.world with ⟨err | -, after⟩
  · exact .aside after relay.clock relay.breaker le_rfl
  · exact .respond after intake event known written conveyed

theorem mem_of_made {ones : List (Option Intake)} {prepared : List (Event × String)}
    (each : List.Forall₂ Made ones prepared) :
    ∀ made ∈ prepared, ∃ intake ∈ ones.reduceOption, Intake.Conveyed intake made.1 := by
  induction each with
  | nil => exact nofun
  | cons one _ ih =>
    obtain ⟨intake, rfl, conveyed, -⟩ := one
    rintro made (_ | ⟨_, later⟩)
    · exact ⟨intake, List.mem_cons_self, conveyed⟩
    · obtain ⟨other, inside, own⟩ := ih made later
      exact ⟨other, List.mem_cons_of_mem _ inside, own⟩

theorem leads_ingestPointers (requests : List ProtoIngestEventRequest) :
    (ingestPointers world (toDTOs requests) : Trial (Relay ω engine) _).Leads (Moves world)
      ⟨(intakes requests).reduceOption, [], []⟩
      (fun later eventIDs => ∃ prepared : List (Event × String), List.Forall₂ Made (intakes requests) prepared ∧
        later = ⟨(intakes requests).reduceOption, prepared.map Prod.fst, prepared.map Prod.fst⟩ ∧
        eventIDs = prepared.map Prod.snd) := by
  cases pointers : toDTOs requests with
  | nil =>
    rw [List.map_eq_nil_iff.mp pointers]
    exact .pure ⟨[], .nil, rfl, rfl⟩
  | cons pointer rest =>
    cases pointer with
    | none => exact .crash
    | some first =>
      apply (leads_correlationOr first.correlationID).bind
      rintro _ correlationID ⟨rfl, choice⟩
      apply (Trial.Leads.collectFrom _ _ (leads_preparePointer correlationID) 0).bind
      rintro _ prepared ⟨rfl, built⟩
      have leads : (toDTOs requests).head? = some (some first) := by
        rw [pointers]
        rfl
      rw [← pointers] at built
      have made := made_of_prepared leads choice built
      apply (leads_finishBatch (mem_of_made made)).mono
      rintro _ _ ⟨rfl, rfl⟩
      exact ⟨prepared, made, rfl, rfl⟩

/-- The intake of a response is the one that the event at its place was made from. -/
theorem made_at {ones : List (Option Intake)} {prepared : List (Event × String)} (each : List.Forall₂ Made ones prepared)
    {done : List String} {eventID : String} (part : done ++ [eventID] <+: prepared.map Prod.snd) :
    ∃ intake event, ones[done.length]?.join = some intake ∧ intake ∈ ones.reduceOption ∧
      event ∈ prepared.map Prod.fst ∧ intake.Conveyed event ∧ event.id = eventID := by
  induction each generalizing done with
  | nil => simp at part
  | @cons one made ones prepared own _ ih =>
    obtain ⟨intake, rfl, conveyed, id⟩ := own
    cases done with
    | nil =>
      obtain ⟨same, -⟩ := List.cons_prefix_cons.mp part
      exact ⟨intake, made.1, rfl, List.mem_cons_self, List.mem_cons_self, conveyed, id.trans same.symm⟩
    | cons _ done =>
      obtain ⟨-, rest⟩ := List.cons_prefix_cons.mp part
      obtain ⟨other, event, here, known, written, own, id⟩ := ih rest
      exact ⟨other, event, here, List.mem_cons_of_mem _ known, List.mem_cons_of_mem _ written, own, id⟩

theorem leads_processBatch (requests : List ProtoIngestEventRequest) :
    (processBatch world requests : Trial (Relay ω engine) Unit).Leads (Moves world) way (fun _ _ => True) := by
  apply (leads_receive _).bind
  rintro _ _ rfl
  apply (leads_ingestPointers requests).bind
  rintro _ _ ⟨prepared, each, rfl, rfl⟩
  apply Trial.Leads.mono (Trial.Leads.eachFrom (fun (_ : List String) (later : Way) =>
    later = ⟨(intakes requests).reduceOption, prepared.map Prod.fst, prepared.map Prod.fst⟩) _ _ rfl)
  · exact fun _ _ _ => trivial
  · rintro _ done eventID _ part rfl rfl
    obtain ⟨intake, event, here, known, written, conveyed, rfl⟩ := made_at each part
    rw [here]
    exact leads_respond known written conveyed

end Batches

section Handlers
variable {ω : Type} {engine : RegexpEngine} {world : World ω} {way : Way}

theorem leads_ingestConverted {submitted : ProtoEvent} {request : IngestEventRequest}
    (converted : eventProtoToDTO (some ⟨some submitted⟩) = some request) :
    (ingestConverted world ⟨some submitted⟩ request : Trial (Relay ω engine) Unit).Leads (Moves world) way
      (fun _ _ => True) := by
  apply (leads_receive _).bind
  rintro _ _ rfl
  have known : ⟨submitted, submitted⟩ ∈ (⟨(intakes [⟨some submitted⟩]).reduceOption, [], []⟩ : Way).intakes :=
    List.mem_cons_self
  apply (leads_ingestEvent converted known).bind
  rintro later _ ⟨event, same, written, rfl, conveyed⟩
  apply Trial.Leads.call
  intro relay
  exact ⟨later, .respond relay.world ⟨submitted, submitted⟩ event (same ▸ known) written conveyed, fun _ _ => trivial⟩

theorem follows_ingestEventCall (req : Option ProtoIngestEventRequest) :
    (ingestEventCall world req : Job (Relay ω engine) Ended).Follows (Moves world) (fun _ _ => True) way := by
  rcases req with - | ⟨- | submitted⟩
  · exact trivial
  · exact trivial
  · exact Job.Follows.bind (leads_ingestConverted rfl) (fun _ _ _ => trivial)

theorem follows_streamFrom (ending : Ending) (batchRequests messages : List ProtoIngestEventRequest) :
    (streamFrom world ending batchRequests messages : Job (Relay ω engine) Ended).Follows (Moves world)
      (fun _ _ => True) way := by
  have batch (requests : List ProtoIngestEventRequest) {goOn : Job (Relay ω engine) Ended} {way : Way}
      (follows : ∀ way, goOn.Follows (Moves world) (fun _ _ => True) way) :
      (Job.bind (processBatch world requests) (afterBatch goOn)).Follows (Moves world) (fun _ _ => True) way := by
    apply Job.Follows.bind (leads_processBatch requests)
    rintro later (⟨err | -⟩ | -) -
    · trivial
    · exact follows later
    · trivial
  induction messages generalizing batchRequests way with
  | nil =>
    unfold streamFrom
    cases ending with
    | eof =>
      dsimp only
      split
      next => exact batch _ (fun _ => trivial)
      next => trivial
    | failed => trivial
  | cons req rest ih =>
    unfold streamFrom
    split
    next => exact batch _ (fun _ => ih [])
    next => exact ih _

theorem serve_follows (incoming : Incoming) :
    (serve world incoming : Job (Relay ω engine) Ended).Follows (Moves world) (fun _ _ => True) way := by
  cases incoming with
  | unary req => exact follows_ingestEventCall req
  | stream messages ending => exact follows_streamFrom ending [] messages

end Handlers
end EventGateway.Journey
