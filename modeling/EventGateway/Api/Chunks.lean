import EventGateway.Api.IngestStream
import EventGateway.Lib.Pages

/-! How the stream of ingestion is cut into batches. A log beside the
state notes each call of `IngestEventBatch` with its result and each response that was sent. -/

namespace EventGateway.Api
open Lib Lib.Effect Lib.Pages Ingest

def inTurn {σ : Type} (process : List ProtoIngestEventRequest → Risky σ Unit) :
    List (List ProtoIngestEventRequest) → σ → Ended × σ
  | [], state => (.returned (.ok ()), state)
  | block :: rest, state => afterBatch (inTurn process rest) (process block state)

/-- Up to the end of the stream the loop processes the pages of a hundred in turn: the batch that
is being collected is always the beginning of the next page. -/
theorem streamFrom_eq_inTurn {σ : Type} (process : List ProtoIngestEventRequest → Risky σ Unit)
    (rest batch : List ProtoIngestEventRequest) (short : batch.length < batchSize) :
    streamFrom process .eof batch rest = inTurn process (pages batchSize (batch ++ rest)) := by
  have positive : 0 < batchSize := by decide
  induction rest generalizing batch with
  | nil =>
    funext state
    rw [List.append_nil, streamFrom]
    by_cases nonempty : batch ≠ []
    · rw [if_pos nonempty, pages_short nonempty short.le, inTurn]
      rfl
    · rw [if_neg nonempty, not_not.mp nonempty, pages_nil positive, inTurn]
  | cons req rest ih =>
    funext state
    have joined : batch ++ req :: rest = (batch ++ [req]) ++ rest := List.append_cons batch req rest
    rw [joined, streamFrom]
    by_cases reached : batchSize ≤ (batch ++ [req]).length
    · rw [if_pos reached, pages_append positive (batch_full short reached), inTurn, ih [] positive, List.nil_append]
    · rw [if_neg reached, ih (batch ++ [req]) (not_le.mp reached)]

section Log

/-- A call of `IngestEventBatch`: the list that was passed and what came back. -/
structure BatchCall where
  passed : List (Option IngestEventRequest)
  result : Outcome (List String)

def BatchCall.Succeeded (call : BatchCall) : Prop := ∃ eventIDs, call.result = .returned (.ok eventIDs)

structure StreamLog (σ : Type) where
  env : σ
  calls : List BatchCall
  responses : List String

variable {σ : Type}

def StreamLog.start (env : σ) : StreamLog σ := ⟨env, [], []⟩

def noteCall (ingestEventBatch : List (Option IngestEventRequest) → Risky σ (List String))
    (passed : List (Option IngestEventRequest)) : Risky (StreamLog σ) (List String) := fun log =>
  let (result, env) := ingestEventBatch passed log.env
  (result, { log with env, calls := log.calls ++ [⟨passed, result⟩] })

def noteSend (send : String → Effect σ Unit) (eventID : String) : Effect (StreamLog σ) Unit := fun log =>
  match send eventID log.env with
  | (.ok (), env) => (.ok (), { log with env, responses := log.responses ++ [eventID] })
  | (.error err, env) => (.error err, { log with env })

def loggedStream (ports : Ports σ) (send : String → Effect σ Unit) (messages : List ProtoIngestEventRequest)
    (env : σ) : Ended × StreamLog σ :=
  streamFrom (processBatch (noteSend send) (noteCall ports.ingestPointers)) .eof [] messages (.start env)

end Log

section Mirroring
variable {σ τ : Type} {view : σ → τ} {fine : List ProtoIngestEventRequest → Risky σ Unit}
  {coarse : List ProtoIngestEventRequest → Risky τ Unit}

theorem afterBatch_mirrors {goOn : σ → Ended × σ} {goOn' : τ → Ended × τ} {result : Outcome Unit} {state : σ}
    (same : ∀ state, goOn' (view state) = ((goOn state).1, view (goOn state).2)) :
    afterBatch goOn' (result, view state) =
      ((afterBatch goOn (result, state)).1, view (afterBatch goOn (result, state)).2) := by
  rcases result with ⟨err | _⟩ | _
  · rfl
  · exact same state
  · rfl

theorem inTurn_mirrors
    (same : ∀ block state, coarse block (view state) = ((fine block state).1, view (fine block state).2))
    (blocks : List (List ProtoIngestEventRequest)) (state : σ) :
    inTurn coarse blocks (view state) = ((inTurn fine blocks state).1, view (inTurn fine blocks state).2) := by
  induction blocks generalizing state with
  | nil => rfl
  | cons block rest ih =>
    rw [inTurn, inTurn, same]
    exact afterBatch_mirrors ih

end Mirroring

section Steps
variable {σ : Type} {ports : Ports σ} {send : String → Effect σ Unit}

theorem noteSend_mirrors (send : String → Effect σ Unit) (eventID : String) :
    Mirrors StreamLog.env (noteSend send eventID) (send eventID) := by
  intro log
  unfold noteSend
  rcases send eventID log.env with ⟨err | _, env⟩ <;> rfl

theorem processBatch_mirrors (ingestEventBatch : List (Option IngestEventRequest) → Risky σ (List String))
    (send : String → Effect σ Unit) (block : List ProtoIngestEventRequest) (log : StreamLog σ) :
    processBatch send ingestEventBatch block log.env =
      ((processBatch (noteSend send) (noteCall ingestEventBatch) block log).1,
        (processBatch (noteSend send) (noteCall ingestEventBatch) block log).2.env) := by
  simp only [processBatch, Risky.bind_apply, noteCall]
  rcases ingestEventBatch (toDTOs block) log.env with ⟨⟨err | eventIDs⟩ | _, env⟩
  · rfl
  · have sends := Mirrors.eachFrom (fun _ eventID => noteSend_mirrors send eventID) eventIDs 0
    simp only [Risky.calling, sends ⟨env, log.calls ++ [⟨toDTOs block, .returned (.ok eventIDs)⟩], log.responses⟩]
  · rfl

theorem noteSend_each (never : ∀ eventID state, (send eventID state).1 = .ok ()) (eventIDs : List String)
    (start : Nat) (log : StreamLog σ) :
    ∃ env, eachFrom (fun _ eventID => noteSend send eventID) start eventIDs log =
      (.ok (), { log with env, responses := log.responses ++ eventIDs }) := by
  induction eventIDs generalizing start log with
  | nil =>
    refine ⟨log.env, ?_⟩
    rw [List.append_nil]
    rfl
  | cons eventID rest ih =>
    have sent : noteSend send eventID log =
        (.ok (), { log with env := (send eventID log.env).2, responses := log.responses ++ [eventID] }) := by
      have taken := never eventID log.env
      unfold noteSend
      rcases reply : send eventID log.env with ⟨err | _, env⟩
      · rw [reply] at taken
        cases taken
      · rfl
    obtain ⟨env, others⟩ := ih (start + 1)
      { log with env := (send eventID log.env).2, responses := log.responses ++ [eventID] }
    refine ⟨env, ?_⟩
    rw [eachFrom, bind_apply, sent]
    dsimp only
    rw [others, List.append_assoc, List.singleton_append]

theorem ingestPointers_length {requests : List IngestEventRequest} {eventIDs : List String} {env after : σ}
    (ran : ports.ingestPointers (requests.map some) env = (.returned (.ok eventIDs), after)) :
    eventIDs.length = requests.length := by
  rw [Ports.ingestPointers_present] at ran
  have called : ports.ingestEventBatch requests env = (.ok eventIDs, after) := by
    simp only [Risky.calling, Prod.mk.injEq, Outcome.returned.injEq] at ran
    exact Prod.ext ran.1 ran.2
  obtain ⟨correlationID, events, -, built, rfl, -⟩ :=
    Triple.ok ((keeps_true ports).account.ingestEventBatch_spec requests) trivial called
  rw [List.length_map, built.length_eq]

theorem toDTOs_present {block : List ProtoIngestEventRequest}
    (present : ∀ message ∈ block, message.event ≠ none) :
    ∃ requests : List IngestEventRequest, toDTOs block = requests.map some ∧ requests.length = block.length := by
  induction block with
  | nil => exact ⟨[], rfl, rfl⟩
  | cons message rest ih =>
    obtain ⟨requests, same, sized⟩ := ih (fun other member => present other (List.mem_cons_of_mem _ member))
    obtain ⟨event, here⟩ := Option.ne_none_iff_exists'.mp (present message List.mem_cons_self)
    obtain ⟨request, converted⟩ : ∃ request, eventProtoToDTO (some message) = some request := by
      rw [eventProtoToDTO, here]
      exact ⟨_, rfl⟩
    refine ⟨request :: requests, ?_, ?_⟩
    · rw [toDTOs, List.map_cons, converted, List.map_cons, ← same, toDTOs]
    · rw [List.length_cons, List.length_cons, sized]

def answeredCall (block : List ProtoIngestEventRequest) (eventIDs : List String) : BatchCall :=
  ⟨toDTOs block, .returned (.ok eventIDs)⟩

/-- One batch: a failing call sends nothing, a successful one is acknowledged request by request. -/
theorem loggedBatch_cases (ports : Ports σ) (never : ∀ eventID state, (send eventID state).1 = .ok ())
    {block : List ProtoIngestEventRequest} (present : ∀ message ∈ block, message.event ≠ none) (log : StreamLog σ) :
    ∃ env, (∃ err, processBatch (noteSend send) (noteCall ports.ingestPointers) block log =
        (.returned (.error err), ⟨env, log.calls ++ [⟨toDTOs block, .returned (.error err)⟩], log.responses⟩)) ∨
      (∃ eventIDs, eventIDs.length = block.length ∧
        processBatch (noteSend send) (noteCall ports.ingestPointers) block log =
          (.returned (.ok ()), ⟨env, log.calls ++ [answeredCall block eventIDs], log.responses ++ eventIDs⟩)) := by
  obtain ⟨requests, converted, sized⟩ := toDTOs_present present
  simp only [processBatch, Risky.bind_apply, noteCall]
  rcases ran : ports.ingestPointers (toDTOs block) log.env with ⟨⟨err | eventIDs⟩ | _, env⟩
  · exact ⟨env, .inl ⟨err, rfl⟩⟩
  · rw [converted] at ran
    obtain ⟨final, sent⟩ := noteSend_each never eventIDs 0
      ⟨env, log.calls ++ [answeredCall block eventIDs], log.responses⟩
    exact ⟨final, .inr ⟨eventIDs, (ingestPointers_length ran).trans sized, Risky.calling_ok sent⟩⟩
  · rw [converted, Ports.ingestPointers_present] at ran
    cases ran

inductive TurnedOut (blocks : List (List ProtoIngestEventRequest)) (log : StreamLog σ) :
    Ended × StreamLog σ → Prop where
  | finished (env : σ) (answers : List (List String))
      (sized : List.Forall₂ (fun block eventIDs => eventIDs.length = block.length) blocks answers) :
      TurnedOut blocks log (.returned (.ok ()),
        ⟨env, log.calls ++ List.zipWith answeredCall blocks answers, log.responses ++ answers.flatten⟩)
  | failed (env : σ) (before later : List (List ProtoIngestEventRequest)) (block : List ProtoIngestEventRequest)
      (answers : List (List String)) (err : String) (split : blocks = before ++ block :: later)
      (sized : List.Forall₂ (fun block eventIDs => eventIDs.length = block.length) before answers) :
      TurnedOut blocks log (.returned (.error ⟨.internal, "failed to process batch"⟩),
        ⟨env, log.calls ++ (List.zipWith answeredCall before answers ++ [⟨toDTOs block, .returned (.error err)⟩]),
          log.responses ++ answers.flatten⟩)

theorem TurnedOut.cons {block : List ProtoIngestEventRequest} {rest : List (List ProtoIngestEventRequest)}
    {log : StreamLog σ} {env : σ} {eventIDs : List String} {outcome : Ended × StreamLog σ}
    (sized : eventIDs.length = block.length)
    (others : TurnedOut rest ⟨env, log.calls ++ [answeredCall block eventIDs], log.responses ++ eventIDs⟩ outcome) :
    TurnedOut (block :: rest) log outcome := by
  cases others with
  | finished final answers all =>
    simp only [List.append_assoc]
    exact .finished final (eventIDs :: answers) (.cons sized all)
  | failed final before later failing answers err split all =>
    simp only [List.append_assoc]
    exact .failed final (block :: before) later failing (eventIDs :: answers) err (by rw [split, List.cons_append])
      (.cons sized all)

theorem inTurn_turnedOut (ports : Ports σ) (never : ∀ eventID state, (send eventID state).1 = .ok ())
    (blocks : List (List ProtoIngestEventRequest))
    (present : ∀ block ∈ blocks, ∀ message ∈ block, message.event ≠ none) (log : StreamLog σ) :
    TurnedOut blocks log
      (inTurn (processBatch (noteSend send) (noteCall ports.ingestPointers)) blocks log) := by
  induction blocks generalizing log with
  | nil =>
    have nothing : TurnedOut [] log _ := .finished log.env [] .nil
    rw [inTurn]
    simpa only [List.zipWith_nil_left, List.flatten_nil, List.append_nil] using nothing
  | cons block rest ih =>
    rw [inTurn]
    obtain ⟨env, ⟨err, ran⟩ | ⟨eventIDs, sized, ran⟩⟩ :=
      loggedBatch_cases ports never (present block List.mem_cons_self) log
    · have stopped : TurnedOut (block :: rest) log _ := .failed env [] rest block [] err rfl .nil
      rw [ran, afterBatch]
      simpa only [List.zipWith_nil_left, List.flatten_nil, List.append_nil, List.nil_append] using stopped
    · rw [ran]
      exact .cons sized (ih (fun other member => present other (List.mem_cons_of_mem _ member)) _)

end Steps

/-- What became of the messages of a stream. The lists passed are the first of the blocks, all of them if every call
succeeds, and each request is answered with the ID that came back for it. A call that fails is the last one. -/
structure ChunkedWithoutLoss {σ : Type} (messages : List ProtoIngestEventRequest) (ended : Ended)
    (log : StreamLog σ) : Prop where
  blocks : ∃ blocks : List (List ProtoIngestEventRequest), blocks.flatten = messages ∧
    blocks.map List.length = List.replicate (messages.length / 100) 100 ++
      (if messages.length % 100 = 0 then [] else [messages.length % 100]) ∧
    log.calls.map BatchCall.passed <+: blocks.map toDTOs ∧
    ((∀ call ∈ log.calls, call.Succeeded) → log.calls.map BatchCall.passed = blocks.map toDTOs)
  succeeds : (∀ call ∈ log.calls, call.Succeeded) →
    ended = .returned (.ok ()) ∧ log.responses.length = messages.length ∧
    ∀ k, k < messages.length → ∃ call eventIDs eventID, log.calls[k / 100]? = some call ∧
      call.result = .returned (.ok eventIDs) ∧ eventIDs.length = call.passed.length ∧
      eventIDs[k % 100]? = some eventID ∧ log.responses[k]? = some eventID
  fails : ∀ j call, log.calls[j]? = some call → ¬call.Succeeded →
    (∀ i earlier, i < j → log.calls[i]? = some earlier → earlier.Succeeded) →
    log.responses.length = 100 * j ∧ (∃ status, ended = .returned (.error status)) ∧ log.calls.length = j + 1

section Chunks
variable {σ : Type} {before : List (List ProtoIngestEventRequest)} {answers : List (List String)}

theorem answered_map_length
    (sized : List.Forall₂ (fun block eventIDs => eventIDs.length = block.length) before answers) :
    answers.map List.length = before.map List.length := by
  induction sized with
  | nil => rfl
  | cons own _ ih => rw [List.map_cons, List.map_cons, own, ih]

theorem answered_passed (sized : List.Forall₂ (fun block eventIDs => eventIDs.length = block.length) before answers) :
    (List.zipWith answeredCall before answers).map BatchCall.passed = before.map toDTOs := by
  induction sized with
  | nil => rfl
  | cons _ _ ih => rw [List.zipWith_cons_cons, List.map_cons, ih, List.map_cons, answeredCall]

theorem answered_at (sized : List.Forall₂ (fun block eventIDs => eventIDs.length = block.length) before answers)
    {index : Nat} {eventIDs : List String} (answer : answers[index]? = some eventIDs) :
    ∃ block, (List.zipWith answeredCall before answers)[index]? = some (answeredCall block eventIDs) ∧
      eventIDs.length = (answeredCall block eventIDs).passed.length := by
  obtain ⟨inside, rfl⟩ := List.getElem?_eq_some_iff.mp answer
  obtain ⟨lengths, each⟩ := List.forall₂_iff_get.mp sized
  have within : index < before.length := lengths ▸ inside
  refine ⟨before[index], ?_, ?_⟩
  · exact List.getElem?_zipWith_eq_some.mpr ⟨_, _, List.getElem?_eq_getElem within, answer, rfl⟩
  · rw [answeredCall, toDTOs, List.length_map]
    exact each index within inside

theorem answered_succeeded {call : BatchCall} (member : call ∈ List.zipWith answeredCall before answers) :
    call.Succeeded := by
  obtain ⟨index, inside, rfl⟩ := List.getElem_of_mem member
  rw [List.getElem_zipWith]
  exact ⟨_, rfl⟩

theorem unanswered_not_succeeded {passed : List (Option IngestEventRequest)} {err : String} :
    ¬(BatchCall.mk passed (.returned (.error err))).Succeeded := by
  rintro ⟨eventIDs, same⟩
  cases same

/-- Every call is answered: the answers are the responses, cut as the messages were. -/
theorem chunked_finished {messages : List ProtoIngestEventRequest} (env : σ)
    (sized : List.Forall₂ (fun block eventIDs => eventIDs.length = block.length) (pages batchSize messages) answers) :
    ChunkedWithoutLoss messages (.returned (.ok ()))
      ⟨env, List.zipWith answeredCall (pages batchSize messages) answers, answers.flatten⟩ := by
  have positive : 0 < batchSize := by decide
  have answered : answers.map List.length = pageLengths batchSize messages.length :=
    (answered_map_length sized).trans (map_length_pages positive messages)
  have total : answers.flatten.length = messages.length := by
    rw [List.length_flatten, answered_map_length sized, ← List.length_flatten, flatten_pages positive]
  have cut : answers = pages batchSize answers.flatten := eq_pages positive (total.symm ▸ answered)
  have lengths := map_length_pages positive messages
  refine ⟨⟨pages batchSize messages, flatten_pages positive messages, lengths, ?_, ?_⟩, ?_, ?_⟩
  · rw [answered_passed sized]
  · exact fun _ => answered_passed sized
  · refine fun _ => ⟨rfl, total, ?_⟩
    intro k inside
    have paged := getElem_pages positive answers.flatten k
    have within : k < answers.flatten.length := total.symm ▸ inside
    have there : answers.flatten[k]? = some answers.flatten[k] := List.getElem?_eq_getElem within
    rw [← cut, there] at paged
    obtain ⟨eventIDs, answer, carried⟩ := Option.bind_eq_some_iff.mp paged
    obtain ⟨block, called, same⟩ := answered_at sized answer
    exact ⟨_, eventIDs, _, called, rfl, same, carried, there⟩
  · intro j call found failed _
    exact absurd (answered_succeeded (List.mem_of_getElem? found)) failed

theorem chunked_failed {messages block : List ProtoIngestEventRequest} {later : List (List ProtoIngestEventRequest)}
    (env : σ) (err : String) (status : Status) (split : pages batchSize messages = before ++ block :: later)
    (sized : List.Forall₂ (fun block eventIDs => eventIDs.length = block.length) before answers) :
    ChunkedWithoutLoss messages (.returned (.error status))
      ⟨env, List.zipWith answeredCall before answers ++ [⟨toDTOs block, .returned (.error err)⟩], answers.flatten⟩ := by
  have positive : 0 < batchSize := by decide
  have count : (List.zipWith answeredCall before answers).length = before.length := by
    rw [List.length_zipWith, ← sized.length_eq, Nat.min_self]
  have broken : ¬∀ call ∈ List.zipWith answeredCall before answers ++ [⟨toDTOs block, .returned (.error err)⟩],
      call.Succeeded :=
    fun all => unanswered_not_succeeded (all _ (List.mem_append_right _ List.mem_cons_self))
  have responses : answers.flatten.length = 100 * before.length := by
    have full : before.map List.length = List.replicate before.length batchSize := by
      rw [List.eq_replicate_iff, List.length_map]
      refine ⟨rfl, ?_⟩
      intro length member
      obtain ⟨block, inside, rfl⟩ := List.mem_map.mp member
      exact length_of_pages_append positive split inside
    rw [List.length_flatten, answered_map_length sized, full, List.sum_replicate_nat, Nat.mul_comm]
    rfl
  have lengths := map_length_pages positive messages
  refine ⟨⟨pages batchSize messages, flatten_pages positive messages, lengths, ?_, ?_⟩, ?_, ?_⟩
  · rw [List.map_append, answered_passed sized, split, List.map_append, List.map_cons]
    exact (List.prefix_append_right_inj _).mpr ⟨later.map toDTOs, rfl⟩
  · exact fun all => absurd all broken
  · exact fun all => absurd all broken
  · intro j call found failed _
    have last : j = before.length := by
      rcases Nat.lt_trichotomy j before.length with early | here | late
      · rw [List.getElem?_append_left (by omega)] at found
        exact absurd (answered_succeeded (List.mem_of_getElem? found)) failed
      · exact here
      · rw [List.getElem?_eq_none (by rw [List.length_append, List.length_singleton]; omega)] at found
        cases found
    rw [List.length_append, List.length_singleton, count, last]
    exact ⟨responses, ⟨status, rfl⟩, rfl⟩

end Chunks

/-- Whatever the clock, the store, the publisher and the validator do: a stream of messages with
an event, to a client that takes every response, is cut into blocks without loss. The log shows
the handler of the service at work. -/
theorem ingestEventStream_chunks {σ : Type} (ports : Ports σ) (send : String → Effect σ Unit)
    (messages : List ProtoIngestEventRequest) (env : σ) (present : ∀ message ∈ messages, message.event ≠ none)
    (never : ∀ eventID state, (send eventID state).1 = .ok ()) :
    ingestEventStream ports send messages .eof env =
        ((loggedStream ports send messages env).1, (loggedStream ports send messages env).2.env) ∧
      ChunkedWithoutLoss messages (loggedStream ports send messages env).1
        (loggedStream ports send messages env).2 := by
  have positive : 0 < batchSize := by decide
  have logged : loggedStream ports send messages env =
      inTurn (processBatch (noteSend send) (noteCall ports.ingestPointers)) (pages batchSize messages)
        (.start env) := by
    rw [loggedStream, streamFrom_eq_inTurn _ messages [] positive, List.nil_append]
  have inside : ∀ block ∈ pages batchSize messages, ∀ message ∈ block, message.event ≠ none := by
    intro block member message own
    have whole := flatten_pages positive messages
    exact present message (whole ▸ List.mem_flatten.mpr ⟨block, member, own⟩)
  have turned := inTurn_turnedOut ports never (pages batchSize messages) inside (.start env)
  rw [logged]
  constructor
  · rw [ingestEventStream, streamFrom_eq_inTurn _ messages [] positive, List.nil_append]
    exact inTurn_mirrors (processBatch_mirrors ports.ingestPointers send) (pages batchSize messages) (.start env)
  · revert turned
    generalize inTurn _ (pages batchSize messages) (StreamLog.start env) = outcome
    intro turned
    cases turned with
    | finished final answers sized => exact chunked_finished final sized
    | failed final before later block answers err split sized => exact chunked_failed final err _ split sized

theorem ingestEventStream_chunks_half :
    ChunkedWithoutLoss (List.replicate 250 ⟨some sampleEvent⟩)
      (loggedStream (constantPorts 0) takesAll (List.replicate 250 ⟨some sampleEvent⟩) ()).1
      (loggedStream (constantPorts 0) takesAll (List.replicate 250 ⟨some sampleEvent⟩) ()).2 := by
  refine (ingestEventStream_chunks (constantPorts 0) takesAll _ () ?_ (fun _ _ => rfl)).2
  intro message member
  rw [List.eq_of_mem_replicate member]
  exact Option.some_ne_none sampleEvent

end EventGateway.Api
