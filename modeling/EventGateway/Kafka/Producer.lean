import EventGateway.Kafka.Breaker
import EventGateway.Lib.Trials

/-! The Kafka producer. The serializer is a field that may be unset; calling a method on an unset one panics. A call
does one thing at a time, on the state that its setting gives: the check of the circuit, a wait, an attempt, a result
that the breaker records. A call that nothing interrupts leaves a log of its attempts, of a cancellation that it
observes in a wait and of what it tells the breaker. What a log says can only be one of three things. -/

namespace EventGateway.Kafka
open Lib

def bytesOf (text : String) : Bytes := text.toUTF8.toList

structure KafkaMessage where
  key : Bytes
  value : Bytes
  headers : List (String × Bytes)
  deriving DecidableEq

structure Producer where
  serializer : Option (Event → Except String Bytes)
  maxRetries : Nat
  breaker : ProducerBreaker
  /-- How the time library prints a time; no method changes it. -/
  timeString : Time → String

def newProducer (timeString : Time → String) : Producer where
  serializer := none
  maxRetries := 3
  breaker := .new
  timeString := timeString

/-- What the calls of the producer meet: the circuit, the select before an attempt other than the first, with the error
of a context that is done, the attempts by their numbers, and the breaker that records the end. -/
structure Setting (σ : Type) where
  circuitOpen : σ → Bool
  wait : Nat → σ → Option String × σ
  writeMessages : Nat → List KafkaMessage → σ → Except String Unit × σ
  recordSuccess : σ → σ
  recordFailure : σ → σ

namespace Producer
variable {σ : Type} (kp : Producer) (setting : Setting σ)

def message (event : Event) (serialized : Bytes) : KafkaMessage where
  key := bytesOf event.partitionKey
  value := serialized
  headers := [("event_id", bytesOf event.id), ("timestamp", bytesOf (kp.timeString event.timestamp))]

/-- The select before an attempt that is not the first. -/
def wait (attempt : Nat) : Trial σ (Option String) :=
  if 0 < attempt then Trial.see (setting.wait attempt) else pure none

/-- The loop that `Publish` and `publishWithRetry` both have, with the message that stands at its end. -/
def retryFrom (failure : String) (messages : List KafkaMessage) : Nat → Nat → String → Trial σ Unit
  | 0, _, lastErr => do
      Trial.note setting.recordFailure
      Trial.fail s!"{failure} after {kp.maxRetries} retries: {lastErr}"
  | left + 1, attempt, _ => do
      let done ← wait setting attempt
      match done with
      | some err => Trial.fail err
      | none =>
        let result ← Trial.see (setting.writeMessages attempt messages)
        match result with
        | .ok () => Trial.note setting.recordSuccess
        | .error err => retryFrom failure messages left (attempt + 1) err

def publish (event : Option Event) : Trial σ Unit :=
  match event with
  | none => Trial.fail "event cannot be nil"
  | some event => do
    let circuitOpen ← Trial.see (fun state => (setting.circuitOpen state, state))
    if circuitOpen then Trial.fail "circuit breaker is open"
    else match kp.serializer with
      | none => Trial.crash
      | some serialize =>
        match serialize event with
        | .error err => do
            Trial.note setting.recordFailure
            Trial.fail ("serialization failed: " ++ err)
        | .ok serialized =>
            kp.retryFrom setting "failed to publish" [kp.message event serialized] (kp.maxRetries + 1) 0 ""

def serializeEvents : List (Option Event) → Option (List KafkaMessage)
  | [] => some []
  | none :: rest => serializeEvents rest
  | some event :: rest =>
      match kp.serializer with
      | none => none
      | some serialize =>
        match serialize event with
        | .error _ => serializeEvents rest
        | .ok serialized => (serializeEvents rest).map (kp.message event serialized :: ·)

def publishWithRetry (messages : List KafkaMessage) : Trial σ Unit :=
  kp.retryFrom setting "failed to publish batch" messages (kp.maxRetries + 1) 0 ""

def publishBatch (events : List (Option Event)) : Trial σ Unit :=
  if events = [] then Trial.fail "events slice cannot be empty"
  else do
    let circuitOpen ← Trial.see (fun state => (setting.circuitOpen state, state))
    if circuitOpen then Trial.fail "circuit breaker is open"
    else match kp.serializeEvents events with
      | none => Trial.crash
      | some messages =>
        if messages = [] then Trial.fail "no valid events to publish"
        else kp.publishWithRetry setting messages

def recordSuccess : Producer := { kp with breaker := kp.breaker.recordSuccess }

def recordFailure (now : Time) : Producer := { kp with breaker := kp.breaker.recordFailure now }

end Producer

/-- What one call meets that nothing interrupts: when the context is done, with its error, and what each attempt gives. -/
structure WriterRun where
  done : Nat → Option String
  writeMessages : Nat → List KafkaMessage → Except String Unit

inductive PublishAct where
  | attempted (messages : List KafkaMessage) (result : Except String Unit)
  | sawDone (err : String)
  | recordSuccess
  | recordFailure

def WriterRun.setting (writer : WriterRun) (now : Time) : Setting (Producer × List PublishAct) where
  circuitOpen state := state.1.breaker.circuitOpen
  wait attempt state :=
    match writer.done attempt with
    | some err => (some err, state.1, state.2 ++ [.sawDone err])
    | none => (none, state)
  writeMessages attempt messages state :=
    let result := writer.writeMessages attempt messages
    (result, state.1, state.2 ++ [.attempted messages result])
  recordSuccess state := (state.1.recordSuccess, state.2 ++ [.recordSuccess])
  recordFailure state := (state.1.recordFailure now, state.2 ++ [.recordFailure])

structure LoggedCall where
  result : Outcome Unit
  after : Producer
  log : List PublishAct

namespace Producer
variable (kp : Producer) (writer : WriterRun) (now : Time)

def logged (call : Trial (Producer × List PublishAct) Unit) : LoggedCall :=
  ⟨(call.alone (kp, [])).1, (call.alone (kp, [])).2.1, (call.alone (kp, [])).2.2⟩

def loggedPublish (event : Option Event) : LoggedCall := kp.logged (kp.publish (writer.setting now) event)

def loggedPublishBatch (events : List (Option Event)) : LoggedCall :=
  kp.logged (kp.publishBatch (writer.setting now) events)

end Producer

section Endings
variable {kp : Producer} {writer : WriterRun} {now : Time} {messages : List KafkaMessage}

def failed (messages : List KafkaMessage) (errs : List String) : List PublishAct :=
  errs.map (fun err => .attempted messages (.error err))

def attempts (log : List PublishAct) : List (List KafkaMessage × Except String Unit) :=
  log.filterMap fun
    | .attempted messages result => some (messages, result)
    | _ => none

/-- The attempts of a log are those of this writer, one after the other from this number on. -/
def Asked (writer : WriterRun) (messages : List KafkaMessage) (first : Nat) (log : List PublishAct) : Prop :=
  attempts log = (List.range' first (attempts log).length).map
    (fun number => (messages, writer.writeMessages number messages))

/-- How a call ends after attempts that failed, the first of which has this number: with a success,
in a wait, or because no attempt is left. -/
inductive CallEnds (kp : Producer) (writer : WriterRun) (now : Time) (messages : List KafkaMessage)
    (first left : Nat) : LoggedCall → Prop where
  | delivered (errs : List String) (few : errs.length < left) :
      CallEnds kp writer now messages first left ⟨.returned (.ok ()), kp.recordSuccess,
        failed messages errs ++ [.attempted messages (.ok ()), .recordSuccess]⟩
  | cancelled (errs : List String) (err : String) (few : errs.length < left) (waited : 0 < first + errs.length)
      (done : writer.done (first + errs.length) = some err) :
      CallEnds kp writer now messages first left
        ⟨.returned (.error err), kp, failed messages errs ++ [.sawDone err]⟩
  | exhausted (errs : List String) (text : String) (all : errs.length = left) :
      CallEnds kp writer now messages first left
        ⟨.returned (.error text), kp.recordFailure now, failed messages errs ++ [.recordFailure]⟩

theorem CallEnds.cons {first left : Nat} {call : LoggedCall} (err : String)
    (later : CallEnds kp writer now messages (first + 1) left call) :
    CallEnds kp writer now messages first (left + 1)
      { call with log := .attempted messages (.error err) :: call.log } := by
  cases later with
  | delivered errs few => exact .delivered (err :: errs) (Nat.succ_lt_succ few)
  | cancelled errs reason few waited done =>
    have number : first + (err :: errs).length = first + 1 + errs.length := by
      rw [List.length_cons]
      omega
    exact .cancelled (err :: errs) reason (Nat.succ_lt_succ few) (number ▸ waited) (number ▸ done)
  | exhausted errs text all => exact .exhausted (err :: errs) text (congrArg Nat.succ all)

theorem Asked.cons {first : Nat} {log : List PublishAct} {result : Except String Unit}
    (answer : writer.writeMessages first messages = result) (later : Asked writer messages (first + 1) log) :
    Asked writer messages first (.attempted messages result :: log) := by
  change (messages, result) :: attempts log = (List.range' first ((attempts log).length + 1)).map _
  rw [List.range'_succ, List.map_cons, answer]
  exact congrArg ((messages, result) :: ·) later

theorem alone_attempt (failure : String) {left attempt : Nat} (lastErr : String) (log : List PublishAct)
    (goOn : (if 0 < attempt then writer.done attempt else none) = none) :
    (kp.retryFrom (writer.setting now) failure messages (left + 1) attempt lastErr).alone (kp, log) =
      match writer.writeMessages attempt messages with
      | .ok () => (.returned (.ok ()), kp.recordSuccess, log ++ [.attempted messages (.ok ()), .recordSuccess])
      | .error err => (kp.retryFrom (writer.setting now) failure messages left (attempt + 1) err).alone
          (kp, log ++ [.attempted messages (.error err)]) := by
  have goes : (Producer.wait (writer.setting now) attempt).alone (kp, log) = (.returned (.ok none), kp, log) := by
    unfold Producer.wait
    split
    next waits =>
      rw [if_pos waits] at goOn
      simp only [Trial.alone_see, WriterRun.setting, goOn]
    next => rfl
  rw [Producer.retryFrom, Trial.alone_bind, Risky.bind_ok goes]
  simp only [Trial.alone_bind, Risky.bind_apply, Trial.alone_see, WriterRun.setting]
  cases writer.writeMessages attempt messages with
  | ok => simp only [Trial.alone_note, List.append_assoc, List.singleton_append]
  | error err => rfl

/-- The attempts of one loop, and its end. -/
theorem retryFrom_ends (kp : Producer) (writer : WriterRun) (now : Time) (failure : String)
    (messages : List KafkaMessage) (left attempt : Nat) (lastErr : String) :
    ∃ call, CallEnds kp writer now messages attempt left call ∧ Asked writer messages attempt call.log ∧
      ∀ log, (kp.retryFrom (writer.setting now) failure messages left attempt lastErr).alone (kp, log) =
        (call.result, call.after, log ++ call.log) := by
  induction left generalizing attempt lastErr with
  | zero => exact ⟨_, .exhausted [] _ rfl, rfl, fun _ => rfl⟩
  | succ left ih =>
    cases goOn : (if 0 < attempt then writer.done attempt else none) with
    | some err =>
      obtain ⟨waited, done⟩ := Option.ite_none_right_eq_some.mp goOn
      refine ⟨_, .cancelled [] err (Nat.succ_pos left) waited done, rfl, fun log => ?_⟩
      simp only [Producer.retryFrom, Producer.wait, if_pos waited, Trial.alone_bind, Risky.bind_apply, Trial.alone_see,
        WriterRun.setting, done]
      rfl
    | none =>
      cases written : writer.writeMessages attempt messages with
      | ok =>
        refine ⟨_, .delivered [] (Nat.succ_pos left), Asked.cons written rfl, fun log => ?_⟩
        rw [alone_attempt failure lastErr log goOn, written]
        rfl
      | error err =>
        obtain ⟨call, ends, asked, runs⟩ := ih (attempt + 1) err
        refine ⟨_, ends.cons err, asked.cons written, fun log => ?_⟩
        rw [alone_attempt failure lastErr log goOn, written]
        dsimp only
        rw [runs, List.append_assoc]
        rfl

theorem logged_ends (kp : Producer) (writer : WriterRun) (now : Time) (failure : String) (messages : List KafkaMessage)
    (limit : Nat) :
    CallEnds kp writer now messages 0 limit
        (kp.logged (kp.retryFrom (writer.setting now) failure messages limit 0 "")) ∧
      Asked writer messages 0 (kp.logged (kp.retryFrom (writer.setting now) failure messages limit 0 "")).log := by
  obtain ⟨call, ends, asked, runs⟩ := retryFrom_ends kp writer now failure messages limit 0 ""
  have same : kp.logged (kp.retryFrom (writer.setting now) failure messages limit 0 "") = call := by
    rw [Producer.logged, runs, List.nil_append]
  rw [same]
  exact ⟨ends, asked⟩

end Endings

section Batch
variable {kp : Producer} {writer : WriterRun} {now : Time} {messages : List KafkaMessage}
  {event : Option Event} {events : List (Option Event)}

namespace Producer

def Carries (kp : Producer) (event : Option Event) (message : KafkaMessage) : Prop :=
  ∃ present serialize, event = some present ∧ kp.serializer = some serialize ∧
    serialize present = .ok message.value ∧ message.key = bytesOf present.partitionKey ∧
    ("event_id", bytesOf present.id) ∈ message.headers

def Serializable (kp : Producer) (event : Option Event) : Prop :=
  ∃ present serialize serialized, event = some present ∧ kp.serializer = some serialize ∧
    serialize present = .ok serialized

/-- Whenever `PublishBatch` returns no error, its successful attempt wrote one message for each event,
in their order. -/
def NeverDrops (kp : Producer) (events : List (Option Event)) : Prop :=
  ∀ writer now, (kp.loggedPublishBatch writer now events).result = .returned (.ok ()) →
    ∃ written, .attempted written (.ok ()) ∈ (kp.loggedPublishBatch writer now events).log ∧
      List.Forall₂ kp.Carries events written

end Producer

theorem attempted_of_ends {first left : Nat} {call : LoggedCall} {written : List KafkaMessage}
    (ends : CallEnds kp writer now messages first left call) (member : .attempted written (.ok ()) ∈ call.log) :
    written = messages := by
  have early {errs : List String} : .attempted written (.ok ()) ∉ failed messages errs := by simp [failed]
  cases ends <;> simp_all

theorem delivered_mem {first left : Nat} {call : LoggedCall} (ends : CallEnds kp writer now messages first left call)
    (returned : call.result = .returned (.ok ())) : .attempted messages (.ok ()) ∈ call.log := by
  cases ends with
  | delivered errs few => exact List.mem_append_right _ List.mem_cons_self
  | cancelled | exhausted => cases returned

theorem loggedPublishBatch_eq (closed : kp.breaker.circuitOpen = false)
    (serialized : kp.serializeEvents events = some messages) (some : messages ≠ []) :
    kp.loggedPublishBatch writer now events = kp.logged (kp.publishWithRetry (writer.setting now) messages) := by
  have given : events ≠ [] := by
    rintro rfl
    cases serialized
    exact some rfl
  simp only [Producer.loggedPublishBatch, Producer.publishBatch, if_neg given, serialized, if_neg some,
    Producer.logged, Trial.alone_bind, Risky.bind_apply, Trial.alone_see, WriterRun.setting, closed, Bool.false_eq_true,
    if_false]

theorem loggedPublishBatch_ok (returned : (kp.loggedPublishBatch writer now events).result = .returned (.ok ())) :
    kp.breaker.circuitOpen = false ∧ ∃ messages, kp.serializeEvents events = some messages ∧ messages ≠ [] := by
  simp only [Producer.loggedPublishBatch, Producer.publishBatch, Producer.logged] at returned
  split at returned
  next => cases returned
  simp only [Trial.alone_bind, Risky.bind_apply, Trial.alone_see, WriterRun.setting] at returned
  split at returned
  next => cases returned
  next closed =>
    split at returned
    next => cases returned
    next messages serialized =>
      split at returned
      next => cases returned
      next some => exact ⟨Bool.not_eq_true _ ▸ closed, messages, serialized, some⟩

theorem loggedPublishBatch_ends (closed : kp.breaker.circuitOpen = false)
    (serialized : kp.serializeEvents events = some messages) (some : messages ≠ []) :
    CallEnds kp writer now messages 0 (kp.maxRetries + 1) (kp.loggedPublishBatch writer now events) := by
  rw [loggedPublishBatch_eq closed serialized some]
  exact (logged_ends kp writer now _ messages _).1

theorem Producer.Carries.serializable {message : KafkaMessage} (carries : kp.Carries event message) :
    kp.Serializable event := by
  obtain ⟨present, serialize, same, set, done, -⟩ := carries
  exact ⟨present, serialize, message.value, same, set, done⟩

/-- One turn of the loop: the event is skipped, or a message that carries it is appended. -/
theorem serializeEvents_cons (serialized : kp.serializeEvents (event :: events) = some messages) :
    (¬kp.Serializable event ∧ kp.serializeEvents events = some messages) ∨
      ∃ message rest, kp.Carries event message ∧ kp.serializeEvents events = some rest ∧
        messages = message :: rest := by
  cases event with
  | none => exact .inl ⟨fun ⟨_, _, _, absent, _⟩ => (by cases absent), serialized⟩
  | some present =>
    simp only [Producer.serializeEvents] at serialized
    split at serialized
    next => cases serialized
    next serialize set =>
      split at serialized
      next err failed =>
        refine .inl ⟨?_, serialized⟩
        rintro ⟨_, _, _, ⟨⟩, set', done⟩
        cases set.symm.trans set'
        cases failed.symm.trans done
      next value done =>
        obtain ⟨rest, tail, rfl⟩ := Option.map_eq_some_iff.mp serialized
        exact .inr ⟨_, rest, ⟨present, serialize, rfl, set, done, rfl, List.mem_cons_self⟩, tail, rfl⟩

theorem serializeEvents_all (all : ∀ event ∈ events, kp.Serializable event)
    (serialized : kp.serializeEvents events = some messages) : List.Forall₂ kp.Carries events messages := by
  induction events generalizing messages with
  | nil =>
    cases serialized
    exact .nil
  | cons event rest ih =>
    rcases serializeEvents_cons serialized with ⟨skipped, -⟩ | ⟨message, later, carries, tail, rfl⟩
    · exact absurd (all event List.mem_cons_self) skipped
    · exact .cons carries (ih (fun other member => all other (List.mem_cons_of_mem _ member)) tail)

theorem serializeEvents_ne (serialized : kp.serializeEvents events = some messages) :
    messages ≠ [] ↔ ∃ event ∈ events, kp.Serializable event := by
  induction events generalizing messages with
  | nil =>
    cases serialized
    simp
  | cons event rest ih =>
    rcases serializeEvents_cons serialized with ⟨skipped, tail⟩ | ⟨message, later, carries, -, rfl⟩
    · rw [ih tail]
      simp [skipped]
    · exact iff_of_true (by simp) ⟨event, List.mem_cons_self, carries.serializable⟩

theorem serializeEvents_total {serialize : Event → Except String Bytes} (set : kp.serializer = some serialize)
    (events : List (Option Event)) : ∃ messages, kp.serializeEvents events = some messages := by
  induction events with
  | nil => exact ⟨[], rfl⟩
  | cons event rest ih =>
    obtain ⟨messages, tail⟩ := ih
    cases event with
    | none => exact ⟨messages, tail⟩
    | some present =>
      simp only [Producer.serializeEvents, set]
      cases serialize present with
      | error err => exact ⟨messages, tail⟩
      | ok value => exact ⟨_, by rw [tail]; rfl⟩

def willingWriter : WriterRun where
  done := fun _ => none
  writeMessages := fun _ _ => .ok ()

theorem loggedPublishBatch_willing (closed : kp.breaker.circuitOpen = false)
    (serialized : kp.serializeEvents events = some messages) (some : messages ≠ []) :
    (kp.loggedPublishBatch willingWriter now events).result = .returned (.ok ()) := by
  rw [loggedPublishBatch_eq closed serialized some]
  rfl

end Batch

/-- A batch is never cut short exactly if the circuit is open, all its events can be serialized, or none of
them can: otherwise those that cannot are dropped without an error. -/
theorem publishBatch_neverDrops_iff (kp : Producer) (events : List (Option Event)) :
    kp.NeverDrops events ↔ kp.breaker.circuitOpen = true ∨ (∀ event ∈ events, kp.Serializable event) ∨
      ∀ event ∈ events, ¬kp.Serializable event := by
  constructor
  · intro never
    by_contra mixed
    simp only [not_or, Bool.not_eq_true, not_forall, not_not] at mixed
    obtain ⟨closed, ⟨bad, badMember, unserializable⟩, good, goodMember, serializable⟩ := mixed
    have ⟨_, serialize, _, _, set, _⟩ := serializable
    obtain ⟨messages, serialized⟩ := serializeEvents_total set events
    have some : messages ≠ [] := (serializeEvents_ne serialized).mpr ⟨good, goodMember, serializable⟩
    obtain ⟨written, member, pairs⟩ := never willingWriter 0 (loggedPublishBatch_willing closed serialized some)
    cases attempted_of_ends (loggedPublishBatch_ends closed serialized some) member
    have each := (List.forall₂_and_left _ _).mp (pairs.imp (fun _ _ carries => ⟨carries.serializable, carries⟩))
    exact unserializable (each.1 bad badMember)
  · intro condition writer now returned
    obtain ⟨closed, messages, serialized, some⟩ := loggedPublishBatch_ok returned
    rcases condition with isOpen | all | none
    · cases closed.symm.trans isOpen
    · exact ⟨messages, delivered_mem (loggedPublishBatch_ends closed serialized some) returned,
        serializeEvents_all all serialized⟩
    · obtain ⟨event, member, serializable⟩ := (serializeEvents_ne serialized).mp some
      exact absurd serializable (none event member)

def producerWith (serialize : Event → Except String Bytes) : Producer :=
  { newProducer (fun _ => "") with serializer := some serialize }

/-- One event and one that is absent: a single message is written, and no error is returned. -/
theorem publishBatch_drops_absent :
    ¬(producerWith (fun event => .ok event.data)).NeverDrops [some (.sample "order-1" 0), none] := by
  intro never
  obtain ⟨written, member, pairs⟩ := never willingWriter 0 rfl
  have one := attempted_of_ends (loggedPublishBatch_ends rfl rfl (List.cons_ne_nil _ _)) member
  rw [one] at pairs
  exact absurd pairs.length_eq (by decide)

end EventGateway.Kafka
