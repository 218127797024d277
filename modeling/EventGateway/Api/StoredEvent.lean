import EventGateway.Api.IngestStream
import EventGateway.Ingest.Agreement

/-! The way of an event through the API and back: what `eventEntityToProto` makes of the event
that a unary `IngestEvent` stored, against the message that the client sent. -/

namespace EventGateway.Api
open Lib Lib.Effect Ingest

/-- The `eventv1.Event` that goes back to a client has an ID and a time of the server as well. -/
structure ProtoStoredEvent extends ProtoEvent where
  id : String
  timestamp : Time

def priorityDomainToProto (priority : Priority) : Int32 :=
  if priority = priorityLow then 1
  else if priority = priorityMedium then 2
  else if priority = priorityHigh then 3
  else if priority = priorityCritical then 4
  else 0

def eventEntityToProto (entity : Event) : ProtoStoredEvent where
  id := entity.id
  source := entity.source
  type := entity.eventType
  subject := entity.subject
  data := entity.data
  dataContentType := entity.dataContentType
  schemaUrl := entity.schemaURL
  timestamp := entity.timestamp
  metadata := some entity.metadata
  correlationId := entity.correlationID
  causationId := entity.causationID
  partitionKey := entity.partitionKey
  priority := priorityDomainToProto entity.priority

/-- The message is the submitted one again, up to what the service fills in: a correlation ID that
was missing, and `PRIORITY_MEDIUM` for a priority outside `PRIORITY_LOW` to `PRIORITY_CRITICAL`. -/
structure Reproduces (submitted : ProtoEvent) (stored : ProtoStoredEvent) : Prop where
  source : stored.source = submitted.source
  type : stored.type = submitted.type
  subject : stored.subject = submitted.subject
  data : stored.data = submitted.data
  dataContentType : stored.dataContentType = submitted.dataContentType
  schemaUrl : stored.schemaUrl = submitted.schemaUrl
  metadata : stored.metadata.getD ∅ = submitted.metadata.getD ∅
  causationId : stored.causationId = submitted.causationId
  partitionKey : stored.partitionKey = submitted.partitionKey
  correlationKept : submitted.correlationId ≠ "" → stored.correlationId = submitted.correlationId
  correlationMade : submitted.correlationId = "" →
    (∃ first second, stored.correlationId = idText first second) ∧ stored.correlationId ≠ ""
  priorityKept : 1 ≤ submitted.priority ∧ submitted.priority ≤ 4 → stored.priority = submitted.priority
  priorityMedium : ¬(1 ≤ submitted.priority ∧ submitted.priority ≤ 4) → stored.priority = 2

theorem known_toInt64 (priority : Int32) :
    0 < priority.toInt64 ∧ priority.toInt64 ≤ priorityCritical ↔ 1 ≤ priority ∧ priority ≤ 4 := by
  rw [Int64.lt_iff_toInt_lt, Int64.le_iff_toInt_le, Int32.le_iff_toInt_le, Int32.le_iff_toInt_le,
    Int32.toInt_toInt64]
  exact and_congr_left (fun _ => Int.add_one_le_iff.symm)

theorem priorityDomainToProto_known {priority : Int32} (known : 1 ≤ priority ∧ priority ≤ 4) :
    priorityDomainToProto priority.toInt64 = priority := by
  rw [Int32.le_iff_toInt_le, Int32.le_iff_toInt_le] at known
  have least : (1 : Int32).toInt = 1 := rfl
  have greatest : (4 : Int32).toInt = 4 := rfl
  have each : priority = 1 ∨ priority = 2 ∨ priority = 3 ∨ priority = 4 := by
    simp only [← Int32.toInt_inj]
    rw [least, greatest] at known
    have second : (2 : Int32).toInt = 2 := rfl
    have third : (3 : Int32).toInt = 3 := rfl
    omega
  rcases each with rfl | rfl | rfl | rfl <;> rfl

theorem chosen_generated {σ : Type} {ports : Ports σ} {chosen : String}
    (choice : Account.Chosen ports "" chosen) : ∃ first second, chosen = idText first second := by
  obtain ⟨state, after, ran⟩ := choice
  cases ran
  exact ⟨_, _, rfl⟩

/-- An event that the service built from the converted message reads like the message. -/
theorem reproduces_of_built {σ : Type} {ports : Ports σ} {submitted : ProtoEvent} {request : IngestEventRequest}
    {correlationID : String} {event : Event} (converted : eventProtoToDTO (some ⟨some submitted⟩) = some request)
    (choice : Account.Chosen ports request.correlationID correlationID)
    (built : BuiltFrom correlationID request event) : Reproduces submitted (eventEntityToProto event) := by
  have content := built.content choice.own
  have correlation := built.correlationID
  cases converted
  simp only [contentFor, IngestEventRequest.content, Content.mk.injEq] at content
  obtain ⟨source, type, subject, data, contentType, schemaURL, metadata, -, causation, key, priority⟩ := content
  simp only [known_toInt64] at priority
  constructor
  case source => exact source
  case type => exact type
  case subject => exact subject
  case data => exact data
  case dataContentType => exact contentType
  case schemaUrl => exact schemaURL
  case metadata => exact metadata
  case causationId => exact causation
  case partitionKey => exact key
  case correlationKept =>
    intro named
    exact correlation.trans (choice.own named)
  case correlationMade =>
    intro missing
    simp only [missing] at choice
    obtain ⟨first, second, generated⟩ := chosen_generated choice
    have made : (eventEntityToProto event).correlationId = idText first second := correlation.trans generated
    exact ⟨⟨first, second, made⟩, made.symm ▸ idText_ne first second⟩
  case priorityKept =>
    intro known
    rw [if_pos known] at priority
    simp only [eventEntityToProto, priority]
    exact priorityDomainToProto_known known
  case priorityMedium =>
    intro unknown
    rw [if_neg unknown] at priority
    simp only [eventEntityToProto, priority]
    rfl

section Unary
variable {σ : Type} {ports : Ports σ} {req : ProtoIngestEventRequest} {eventID : String} {state after : σ}

theorem ingestEvent_ok (accepted : ingestEvent ports (some req) state = (.ok eventID, after)) :
    ∃ submitted request, req.event = some submitted ∧ eventProtoToDTO (some ⟨some submitted⟩) = some request ∧
      ports.ingestEvent request state = (.ok eventID, after) := by
  obtain ⟨event⟩ := req
  cases event with
  | none => cases accepted
  | some submitted =>
    refine ⟨submitted, _, rfl, rfl, ?_⟩
    simp only [ingestEvent, eventProtoToDTO] at accepted
    split at accepted
    next => cases accepted
    next ran =>
      cases accepted
      exact ran

/-- An accepted unary call stores one event, and the event goes back to a client as it came. -/
theorem accepted_event_reproduced (accepted : ingestEvent ports (some req) state = (.ok eventID, after)) :
    ∃ submitted event journal, req.event = some submitted ∧
      ingestEvent ports.journal (some req) (Journal.start state) = (.ok eventID, journal) ∧
      journal.env = after ∧ journal.stored = [event] ∧ event.id = eventID ∧
      Reproduces submitted (eventEntityToProto event) := by
  obtain ⟨submitted, request, present, converted, ran⟩ := ingestEvent_ok accepted
  have mirrored := (Ports.journal_mirrors ports).ingestEvent request (Journal.start state)
  rcases journaled : ports.journal.ingestEvent request (Journal.start state) with ⟨result, journal⟩
  rw [journaled] at mirrored
  obtain ⟨rfl, rfl⟩ := Prod.mk.inj (ran.symm.trans mirrored)
  have spec := (journalAccount ports).ingestEvent_spec [] [] request
  obtain ⟨correlationID, event, choice, built, id, stored, -⟩ := spec.ok ⟨rfl, rfl, rfl⟩ journaled
  refine ⟨submitted, event, journal, present, ?_, rfl, stored, id, reproduces_of_built converted choice built⟩
  obtain ⟨_⟩ := req
  cases present
  simp only [ingestEvent, converted, journaled]

end Unary

theorem accepted_event_reproduced_sample :
    let sent : ProtoEvent := { sampleEvent with priority := 7, causationId := "cause" }
    ingestEvent (constantPorts 5) (some ⟨some sent⟩) () = (.ok "5-5", ()) ∧
    ∃ submitted event journal, some sent = some submitted ∧
      ingestEvent (constantPorts 5).journal (some ⟨some sent⟩) (Journal.start ()) = (.ok "5-5", journal) ∧
      journal.env = () ∧ journal.stored = [event] ∧ event.id = "5-5" ∧
      Reproduces submitted (eventEntityToProto event) := by
  have accepted : ingestEvent (constantPorts 5)
      (some ⟨some { sampleEvent with priority := 7, causationId := "cause" }⟩) () = (.ok "5-5", ()) := by
    rfl
  exact ⟨accepted, accepted_event_reproduced accepted⟩

end EventGateway.Api
