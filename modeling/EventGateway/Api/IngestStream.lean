import EventGateway.Ingest.Pointers
import EventGateway.Lib.Outcome

/-! The ingestion calls of the gRPC event handler. The unary call turns a message without an
event away; the stream hands the nil pointer that `eventProtoToDTO` makes of it to the
service, in a batch of up to a hundred. -/

namespace EventGateway.Api
open Lib Lib.Effect Ingest

/-- The fields of `eventv1.Event` that are read. The priority is an open enumeration. -/
structure ProtoEvent where
  source : String
  type : String
  subject : String
  data : Bytes
  dataContentType : String
  schemaUrl : String
  metadata : Option StringMap
  correlationId : String
  causationId : String
  partitionKey : String
  priority : Int32

structure ProtoIngestEventRequest where
  event : Option ProtoEvent

def eventProtoToDTO : Option ProtoIngestEventRequest → Option IngestEventRequest
  | none => none
  | some protoReq =>
    match protoReq.event with
    | none => none
    | some protoEvent => some {
        source := protoEvent.source
        type := protoEvent.type
        subject := protoEvent.subject
        data := protoEvent.data
        dataContentType := protoEvent.dataContentType
        schemaURL := protoEvent.schemaUrl
        metadata := protoEvent.metadata.getD ∅
        correlationID := protoEvent.correlationId
        causationID := protoEvent.causationId
        partitionKey := protoEvent.partitionKey
        priority := protoEvent.priority.toInt64 }

inductive Ended where
  | returned (result : Except Status Unit)
  | panicked
  deriving DecidableEq

/-- How the messages of a stream end: the client closes it, or `Recv` fails. -/
inductive Ending where
  | eof
  | failed

def batchSize : Nat := 100

section Handler
variable {σ : Type} (ports : Ports σ) (send : String → Effect σ Unit)

def ingestEvent (req : Option ProtoIngestEventRequest) (state : σ) : Except Status String × σ :=
  match req with
  | none => (.error ⟨.invalidArgument, "request cannot be nil"⟩, state)
  | some req =>
    match eventProtoToDTO (some req) with
    | none => (.error ⟨.invalidArgument, "failed to convert request"⟩, state)
    | some dtoReq =>
      match ports.ingestEvent dtoReq state with
      | (.error _, after) => (.error ⟨.internal, "failed to ingest event"⟩, after)
      | (.ok eventID, after) => (.ok eventID, after)

def toDTOs (requests : List ProtoIngestEventRequest) : List (Option IngestEventRequest) :=
  requests.map (fun req => eventProtoToDTO (some req))

/-- `send` is the `Send` of the stream, one response for each event ID; the service is known as its use case only. -/
def processBatch (ingestEventBatch : List (Option IngestEventRequest) → Risky σ (List String))
    (requests : List ProtoIngestEventRequest) : Risky σ Unit := do
  let eventIDs ← ingestEventBatch (toDTOs requests)
  Risky.calling (eachFrom (fun _ eventID => send eventID) 0 eventIDs)

def afterBatch (goOn : σ → Ended × σ) : Outcome Unit × σ → Ended × σ
  | (.returned (.ok ()), after) => goOn after
  | (.returned (.error _), after) => (.returned (.error ⟨.internal, "failed to process batch"⟩), after)
  | (.panicked, after) => (.panicked, after)

/-- The loop of `IngestEventStream` with these requests in the batch and these messages to come. -/
def streamFrom (process : List ProtoIngestEventRequest → Risky σ Unit) (ending : Ending) :
    List ProtoIngestEventRequest → List ProtoIngestEventRequest → σ → Ended × σ
  | batchRequests, [], state =>
    match ending with
    | .eof =>
      if batchRequests ≠ [] then
        afterBatch (fun after => (.returned (.ok ()), after)) (process batchRequests state)
      else (.returned (.ok ()), state)
    | .failed => (.returned (.error ⟨.internal, "failed to read from stream"⟩), state)
  | batchRequests, req :: rest, state =>
    if batchSize ≤ (batchRequests ++ [req]).length then
      afterBatch (streamFrom process ending [] rest) (process (batchRequests ++ [req]) state)
    else streamFrom process ending (batchRequests ++ [req]) rest state

def ingestEventStream (messages : List ProtoIngestEventRequest) (ending : Ending) : σ → Ended × σ :=
  streamFrom (processBatch send ports.ingestPointers) ending [] messages

end Handler

/-- The messages that are in a batch when it is processed, if no batch fails: those of a last batch that is
not full are dropped when `Recv` fails. -/
def processed (ending : Ending) (messages : List ProtoIngestEventRequest) : List ProtoIngestEventRequest :=
  match ending with
  | .eof => messages
  | .failed => messages.take (messages.length / batchSize * batchSize)

/-- Whatever the service, the store, the broker and the client do, the stream call returns nil or a status,
and the unary call turns every message without an event away and leaves the service alone. -/
structure Rejects (messages : List ProtoIngestEventRequest) (ending : Ending) : Prop where
  stream : ∀ (σ : Type) (ports : Ports σ) (send : String → Effect σ Unit) (state : σ),
    ∃ result, (ingestEventStream ports send messages ending state).1 = .returned result
  unary : ∀ (σ : Type) (ports : Ports σ) (state : σ), ∀ message ∈ messages, message.event = none →
    ingestEvent ports (some message) state = (.error ⟨.invalidArgument, "failed to convert request"⟩, state)

section Batches
variable {ending : Ending} {batch rest : List ProtoIngestEventRequest}

theorem toDTOs_append : toDTOs (batch ++ rest) = toDTOs batch ++ toDTOs rest := List.map_append

theorem batch_full {req : ProtoIngestEventRequest} (short : batch.length < batchSize)
    (reached : batchSize ≤ (batch ++ [req]).length) : (batch ++ [req]).length = batchSize := by
  rw [List.length_append, List.length_singleton] at reached ⊢
  omega

theorem processed_full (full : batch.length = batchSize) :
    processed ending (batch ++ rest) = batch ++ processed ending rest := by
  cases ending with
  | eof => rfl
  | failed =>
    have count : (batch ++ rest).length / batchSize * batchSize =
        batch.length + rest.length / batchSize * batchSize := by
      rw [List.length_append, full]
      unfold batchSize
      omega
    rw [processed, count, List.take_length_add_append]
    rfl

theorem processed_short (short : batch.length < batchSize) : processed .failed batch = [] := by
  rw [processed, Nat.div_eq_of_lt short, Nat.zero_mul, List.take_zero]

end Batches

section Returning
variable {σ : Type} (ports : Ports σ) (send : String → Effect σ Unit)

theorem processBatch_spec (batch : List ProtoIngestEventRequest) :
    (processBatch send ports.ingestPointers batch).Spec (fun _ => Whole (toDTOs batch)) (¬Guarded (toDTOs batch)) := by
  apply (ingestPointers_spec ports (toDTOs batch)).bind
  intro eventIDs whole
  exact .calling ((Triple.of_final (fun _ _ => trivial)).weaken (fun _ _ _ => whole) (fun _ => id))

/-- After a guarded batch the handler returns, or goes on after valid requests only. -/
theorem afterBatch_returns {batch : List ProtoIngestEventRequest} {goOn : σ → Ended × σ}
    (guarded : Guarded (toDTOs batch))
    (returns : Whole (toDTOs batch) → ∀ after, ∃ result, (goOn after).1 = .returned result) (state : σ) :
    ∃ result, (afterBatch goOn (processBatch send ports.ingestPointers batch state)).1 = .returned result := by
  have result := processBatch_spec ports send batch state
  rcases ran : processBatch send ports.ingestPointers batch state with ⟨⟨err | _⟩ | _, after⟩
  · exact ⟨_, rfl⟩
  · rw [ran] at result
    exact returns result after
  · rw [ran] at result
    exact absurd guarded result

theorem streamFrom_returns (ending : Ending) (rest batch : List ProtoIngestEventRequest)
    (short : batch.length < batchSize) (guarded : Guarded (toDTOs (processed ending (batch ++ rest)))) (state : σ) :
    ∃ result, (streamFrom (processBatch send ports.ingestPointers) ending batch rest state).1 = .returned result := by
  induction rest generalizing batch state with
  | nil =>
    cases ending with
    | failed => exact ⟨_, rfl⟩
    | eof =>
      rw [List.append_nil] at guarded
      unfold streamFrom
      dsimp only
      split
      next => exact afterBatch_returns ports send guarded (fun _ _ => ⟨_, rfl⟩) state
      next => exact ⟨_, rfl⟩
  | cons req rest ih =>
    rw [List.append_cons] at guarded
    unfold streamFrom
    split
    next reached =>
      have full := batch_full short reached
      rw [processed_full full, toDTOs_append] at guarded
      apply afterBatch_returns ports send guarded.left
      intro whole after
      exact ih [] (by decide) (whole.guarded_append.mp guarded) after
    next more => exact ih (batch ++ [req]) (not_le.mp more) guarded state

end Returning

section Panicking

def takesAll (_ : String) : Effect Unit Unit := pure ()

theorem takesAll_each (eventIDs : List String) (start : Nat) :
    eachFrom (fun _ eventID => takesAll eventID) start eventIDs () = (.ok (), ()) := by
  induction eventIDs generalizing start with
  | nil => rfl
  | cons eventID rest ih => exact ih (start + 1)

variable {batch : List ProtoIngestEventRequest}

theorem processBatch_whole (whole : Whole (toDTOs batch)) :
    processBatch takesAll (constantPorts 0).ingestPointers batch () = (.returned (.ok ()), ()) := by
  obtain ⟨eventIDs, ran⟩ := ingestPointers_whole 0 whole
  rw [processBatch, Risky.bind_ok ran]
  exact Risky.calling_ok (takesAll_each eventIDs 0)

theorem afterBatch_panics (goOn : Unit → Ended × Unit) (unguarded : ¬Guarded (toDTOs batch)) :
    (afterBatch goOn (processBatch takesAll (constantPorts 0).ingestPointers batch ())).1 = .panicked := by
  have panicked : (processBatch takesAll (constantPorts 0).ingestPointers batch ()).1 = .panicked :=
    Risky.bind_panicked (ingestPointers_panics 0 unguarded)
  unfold afterBatch
  split
  next same => cases (congrArg Prod.fst same).symm.trans panicked
  next same => cases (congrArg Prod.fst same).symm.trans panicked
  next => rfl

/-- If nobody else fails, the stream call comes to the first nil pointer that is not guarded. -/
theorem streamFrom_panics (ending : Ending) (rest batch : List ProtoIngestEventRequest)
    (short : batch.length < batchSize) (unguarded : ¬Guarded (toDTOs (processed ending (batch ++ rest)))) :
    (streamFrom (processBatch takesAll (constantPorts 0).ingestPointers) ending batch rest ()).1 = .panicked := by
  induction rest generalizing batch with
  | nil =>
    rw [List.append_nil] at unguarded
    cases ending with
    | failed =>
      rw [processed_short short] at unguarded
      exact absurd guarded_nil unguarded
    | eof =>
      have some : batch ≠ [] := by
        rintro rfl
        exact unguarded guarded_nil
      simp only [streamFrom, if_pos some]
      exact afterBatch_panics _ unguarded
  | cons req rest ih =>
    rw [List.append_cons] at unguarded
    unfold streamFrom
    split
    next reached =>
      have full := batch_full short reached
      rw [processed_full full, toDTOs_append] at unguarded
      by_cases guarded : Guarded (toDTOs (batch ++ [req]))
      · have whole := guarded.whole unguarded
        rw [processBatch_whole whole]
        exact ih [] (by decide) (mt whole.guarded_append.mpr unguarded)
      · exact afterBatch_panics _ guarded
    next more => exact ih (batch ++ [req]) (not_le.mp more) unguarded

end Panicking

/-- Malformed messages are rejected exactly if each one that gets into a processed batch comes after a message
whose event entity validation turns down. -/
theorem rejects_iff_guarded (messages : List ProtoIngestEventRequest) (ending : Ending) :
    Rejects messages ending ↔ Guarded (toDTOs (processed ending messages)) := by
  constructor
  · intro rejects
    by_contra unguarded
    obtain ⟨result, returned⟩ := rejects.stream Unit (constantPorts 0) takesAll ()
    have panicked := streamFrom_panics ending messages [] (by decide) unguarded
    cases returned.symm.trans panicked
  · intro guarded
    constructor
    · intro σ ports send state
      exact streamFrom_returns ports send ending messages [] (by decide) guarded state
    · intro σ ports state message _ absent
      simp only [ingestEvent, eventProtoToDTO, absent]

def sampleEvent : ProtoEvent where
  source := "orders"
  type := "created"
  subject := ""
  data := [0x31]
  dataContentType := "application/json"
  schemaUrl := ""
  metadata := none
  correlationId := ""
  causationId := ""
  partitionKey := ""
  priority := 0

/-- A message without an event ends the process, at the head of a batch and behind a valid message, while the
unary call answers it with a status. -/
theorem absent_event_panics :
    (ingestEventStream (constantPorts 0) takesAll [⟨none⟩] .eof ()).1 = .panicked ∧
    (ingestEventStream (constantPorts 0) takesAll [⟨some sampleEvent⟩, ⟨none⟩] .eof ()).1 = .panicked ∧
    (ingestEvent (constantPorts 0) (some ⟨none⟩) ()).1 =
      .error ⟨.invalidArgument, "failed to convert request"⟩ := by
  refine ⟨rfl, ?_, rfl⟩
  apply streamFrom_panics .eof _ [] (by decide)
  intro guarded
  have tail := (guarded_some.mp guarded).resolve_left (not_not.mpr (by decide))
  exact not_guarded_none [] tail

end EventGateway.Api
