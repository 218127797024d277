import EventGateway.Ingest.Retry
import EventGateway.Kafka.Producer
import EventGateway.Subscription.Gateway

/-! The process that `run` builds: the event service over the in-memory store and the Kafka
producer, beside the subscriptions over the Kafka consumer, both behind
`messagebrokerAdapter`. A call on an unset serializer panics, nothing recovers, and the
process ends. The serializers are parameters here, to tell what setting them would change. -/

namespace EventGateway.System
open Lib Lib.Effect Ingest Kafka Replay Subscription

/-- The producer as the adapter shares it. `handed` is a history, the events given to it, and `used`
counts the answers that the surroundings gave. -/
structure Broker where
  producer : Producer
  crashed : Bool
  handed : List Event
  used : Nat

structure Answers where
  now : Nat → Time
  validate : Nat → String → Bytes → Except String Unit
  writer : Nat → WriterRun

namespace Broker

def settle (broker : Broker) (events : List Event) (call : LoggedCall) : Except String Unit × Broker :=
  match call.result with
  | .returned result =>
      (result, { broker with producer := call.after, handed := broker.handed ++ events, used := broker.used + 1 })
  | .panicked =>
      (.error "nil pointer dereference", ⟨call.after, true, broker.handed ++ events, broker.used + 1⟩)

def publish (answers : Answers) (event : Option Event) (_topic : String) : Effect Broker Unit := fun broker =>
  broker.settle event.toList
    (broker.producer.loggedPublish (answers.writer broker.used) (answers.now broker.used) event)

def publishBatch (answers : Answers) (events : List (Option Event)) (_topic : String) : Effect Broker Unit :=
  fun broker => broker.settle (events.filterMap id)
    (broker.producer.loggedPublishBatch (answers.writer broker.used) (answers.now broker.used) events)

end Broker

/-- What `NewEventService` is given: the adapter, the validator and the system clock. -/
def Answers.surroundings (answers : Answers) : Surroundings Broker where
  now broker := (answers.now broker.used, { broker with used := broker.used + 1 })
  publish event topic := Broker.publish answers (some event) topic
  validate schemaURL data := fun broker =>
    (answers.validate broker.used schemaURL data, { broker with used := broker.used + 1 })

inductive PublisherAction where
  | ingestEvent (answers : Answers) (request : IngestEventRequest)
  | ingestEventBatch (answers : Answers) (requests : List IngestEventRequest)
  | publish (answers : Answers) (event : Option Event) (topic : String)
  | publishBatch (answers : Answers) (events : List (Option Event)) (topic : String)
  | autoReset

def publisherStep (memory : Memory Broker) : PublisherAction → Option (Memory Broker)
  | .ingestEvent answers request => some (answers.surroundings.ports.ingestEvent request memory).2
  | .ingestEventBatch answers requests => some (answers.surroundings.ports.ingestEventBatch requests memory).2
  | .publish answers event topic => some (memory.1, (Broker.publish answers event topic memory.2).2)
  | .publishBatch answers events topic => some (memory.1, (Broker.publishBatch answers events topic memory.2).2)
  | .autoReset =>
      if memory.2.producer.breaker.resetTimer.isSome then
        some (memory.1, { memory.2 with
          producer := { memory.2.producer with breaker := memory.2.producer.breaker.autoReset } })
      else none

def storeRetention : Duration := 24 * 3600 * 1000000000

def publisherMachine (timeString : Time → String) (publishing : Option (Event → Except String Bytes)) :
    Machine (Memory Broker) PublisherAction where
  init memory := (∃ now, memory.1 = .newInMemoryEventStore storeRetention now) ∧
    memory.2 = ⟨{ newProducer timeString with serializer := publishing }, false, [], 0⟩
  step := publisherStep

abbrev Process (engine : RegexpEngine) := Memory Broker × Gateway engine

def Intact {engine : RegexpEngine} (process : Process engine) : Prop :=
  process.1.2.crashed = false ∧ process.2.Alive

instance {engine : RegexpEngine} (process : Process engine) : Decidable (Intact process) :=
  inferInstanceAs (Decidable (_ ∧ _))

def Running (engine : RegexpEngine) (timeString : Time → String)
    (publishing : Option (Event → Except String Bytes)) (wiring : Wiring) : Process engine → Prop :=
  ((publisherMachine timeString publishing).interleave (gatewayMachine engine wiring)).Reaches
    (fun process _ => Intact process)

section Producing
variable {kp : Producer} {writer : WriterRun} {now : Time}

def Returns (kp : Producer) (call : LoggedCall) : Prop :=
  (∃ result, call.result = .returned result) ∧ call.after.serializer = kp.serializer

theorem returns_of_ends {messages : List KafkaMessage} {first left : Nat} {call : LoggedCall}
    (ends : CallEnds kp writer now messages first left call) : Returns kp call := by
  cases ends with
  | delivered | cancelled | exhausted => exact ⟨⟨_, rfl⟩, rfl⟩

theorem publish_returns {serialize : Event → Except String Bytes} (set : kp.serializer = some serialize)
    (event : Option Event) : Returns kp (kp.loggedPublish writer now event) := by
  cases event with
  | none => exact ⟨⟨_, rfl⟩, rfl⟩
  | some event =>
    simp only [Producer.loggedPublish, Producer.publish, set, Producer.logged, Trial.alone_bind, Risky.bind_apply,
      Trial.alone_see, WriterRun.setting]
    split
    next => exact ⟨⟨_, rfl⟩, rfl⟩
    split
    next => exact ⟨⟨_, rfl⟩, rfl⟩
    next => exact returns_of_ends (logged_ends kp writer now _ _ _).1

theorem publishBatch_returns {serialize : Event → Except String Bytes} (set : kp.serializer = some serialize)
    (events : List (Option Event)) : Returns kp (kp.loggedPublishBatch writer now events) := by
  obtain ⟨messages, serialized⟩ := serializeEvents_total set events
  unfold Producer.loggedPublishBatch Producer.publishBatch
  split
  next => exact ⟨⟨_, rfl⟩, rfl⟩
  simp only [serialized, Producer.logged, Trial.alone_bind, Risky.bind_apply, Trial.alone_see, WriterRun.setting]
  split
  next => exact ⟨⟨_, rfl⟩, rfl⟩
  split
  next => exact ⟨⟨_, rfl⟩, rfl⟩
  next => exact returns_of_ends (logged_ends kp writer now _ _ _).1

def Unserved (kp : Producer) (events : List Event) (call : LoggedCall) : Prop :=
  call.after = kp ∧ (call.result = .panicked ↔ events ≠ [])

/-- Without one nothing is ever counted as a failure, so that the circuit stays closed. -/
theorem publish_unserved (unset : kp.serializer = none) (closed : kp.breaker.circuitOpen = false)
    (event : Option Event) : Unserved kp event.toList (kp.loggedPublish writer now event) := by
  cases event with
  | none => exact ⟨rfl, by simp [Producer.loggedPublish, Producer.publish, Producer.logged, Trial.alone_fail]⟩
  | some event =>
    simp only [Producer.loggedPublish, Producer.publish, unset, Producer.logged, Trial.alone_bind, Risky.bind_apply,
      Trial.alone_see, WriterRun.setting, closed]
    exact ⟨rfl, iff_of_true rfl (List.cons_ne_nil _ _)⟩

theorem serializeEvents_unset (unset : kp.serializer = none) (events : List (Option Event)) :
    kp.serializeEvents events = if events.filterMap id = [] then some [] else none := by
  induction events with
  | nil => rfl
  | cons event rest ih =>
    cases event with
    | none => simpa [Producer.serializeEvents] using ih
    | some event => simp [Producer.serializeEvents, unset]

theorem publishBatch_unserved (unset : kp.serializer = none) (closed : kp.breaker.circuitOpen = false)
    (events : List (Option Event)) : Unserved kp (events.filterMap id) (kp.loggedPublishBatch writer now events) := by
  unfold Producer.loggedPublishBatch Producer.publishBatch
  split
  next empty => exact ⟨rfl, by simp [Producer.logged, Trial.alone_fail, empty]⟩
  simp only [serializeEvents_unset unset, Producer.logged, Trial.alone_bind, Risky.bind_apply, Trial.alone_see,
    WriterRun.setting, closed]
  by_cases absent : events.filterMap id = []
  · simp only [absent]
    exact ⟨rfl, iff_of_false (fun panicked => by cases panicked) (by simp)⟩
  · simp only [if_neg absent]
    exact ⟨rfl, iff_of_true rfl absent⟩

end Producing

section Publisher
variable {publishing : Option (Event → Except String Bytes)} {broker : Broker}

/-- The producer keeps the serializer it was given, and the process has crashed exactly if an event was
handed to a producer without one. -/
structure Sound (publishing : Option (Event → Except String Bytes)) (broker : Broker) : Prop where
  serializer : broker.producer.serializer = publishing
  closed : publishing = none → broker.producer.breaker.circuitOpen = false
  crashed : broker.crashed = true ↔ publishing = none ∧ broker.handed ≠ []

theorem Sound.used (sound : Sound publishing broker) (used : Nat) : Sound publishing { broker with used } :=
  ⟨sound.serializer, sound.closed, sound.crashed⟩

/-- A broker with a serializer has not crashed, and a call that returns does not change that. -/
theorem Sound.settle_returned {serialize : Event → Except String Bytes} (sound : Sound (some serialize) broker)
    (events : List Event) {call : LoggedCall} (returns : Returns broker.producer call) :
    Sound (some serialize) (broker.settle events call).2 := by
  obtain ⟨⟨answer, returned⟩, kept⟩ := returns
  have running : broker.crashed ≠ true := by
    intro crashed
    cases (sound.crashed.mp crashed).1
  simp only [Broker.settle, returned]
  exact ⟨kept.trans sound.serializer, nofun, iff_of_false running (by simp)⟩

/-- Without a serializer a call crashes the process exactly if it brings an event. -/
theorem Sound.settle_unserved (sound : Sound none broker) {events : List Event} {call : LoggedCall}
    (unserved : Unserved broker.producer events call) : Sound none (broker.settle events call).2 := by
  obtain ⟨result, after, log⟩ := call
  obtain ⟨rfl, panics⟩ := unserved
  cases result with
  | returned answer =>
    have none : events = [] := by
      by_contra some
      cases panics.mpr some
    refine ⟨sound.serializer, sound.closed, ?_⟩
    simpa [Broker.settle, none] using sound.crashed
  | panicked =>
    have some := panics.mp rfl
    refine ⟨sound.serializer, sound.closed, ?_⟩
    simp [Broker.settle, some]

theorem Sound.settle (sound : Sound publishing broker) {events : List Event} {call : LoggedCall}
    (returns : ∀ serialize, broker.producer.serializer = some serialize → Returns broker.producer call)
    (unserved : broker.producer.serializer = none → broker.producer.breaker.circuitOpen = false →
      Unserved broker.producer events call) : Sound publishing (broker.settle events call).2 := by
  cases publishing with
  | some serialize => exact sound.settle_returned events (returns serialize sound.serializer)
  | none => exact sound.settle_unserved (unserved sound.serializer (sound.closed rfl))

theorem publish_sound (answers : Answers) (event : Option Event) (topic : String) (sound : Sound publishing broker) :
    Sound publishing (Broker.publish answers event topic broker).2 :=
  sound.settle (fun _ set => publish_returns set event) (fun unset closed => publish_unserved unset closed event)

theorem publishBatch_sound (answers : Answers) (events : List (Option Event)) (topic : String)
    (sound : Sound publishing broker) : Sound publishing (Broker.publishBatch answers events topic broker).2 :=
  sound.settle (fun _ set => publishBatch_returns set events)
    (fun unset closed => publishBatch_unserved unset closed events)

theorem surroundings_keep (answers : Answers) :
    answers.surroundings.ports.Keeps (fun memory => Sound publishing memory.2) := by
  apply Surroundings.keeps
  · intro broker sound
    exact sound.used _
  · intro event topic
    exact Triple.of_final (fun broker sound => publish_sound answers (some event) topic sound)
  · intro schemaURL data
    exact Triple.of_final (fun broker sound => sound.used _)

theorem publisherStep_sound {memory after : Memory Broker} {action : PublisherAction}
    (sound : Sound publishing memory.2) (stepped : publisherStep memory action = some after) :
    Sound publishing after.2 := by
  cases action with
  | ingestEvent answers request =>
    cases stepped
    exact ((surroundings_keep answers).ingestEvent request).final sound
  | ingestEventBatch answers requests =>
    cases stepped
    exact ((surroundings_keep answers).ingestEventBatch requests).final sound
  | publish answers event topic =>
    cases stepped
    exact publish_sound answers event topic sound
  | publishBatch answers events topic =>
    cases stepped
    exact publishBatch_sound answers events topic sound
  | autoReset =>
    obtain ⟨-, same⟩ := Option.ite_none_right_eq_some.mp stepped
    cases same
    exact ⟨sound.serializer, fun _ => rfl, sound.crashed⟩

theorem sound_of_reached {timeString : Time → String} {admits : Memory Broker → PublisherAction → Prop}
    {memory : Memory Broker} (reached : (publisherMachine timeString publishing).Reaches admits memory) :
    Sound publishing memory.2 := by
  apply reached.invariant (fun memory => Sound publishing memory.2)
  · intro memory initial
    rw [initial.2]
    exact ⟨rfl, fun _ => rfl, by simp⟩
  · intro memory action after _ sound _ stepped
    exact publisherStep_sound sound stepped

end Publisher

section Consumer
variable {wiring : Wiring} {state : State}

theorem judge_panics_iff (fetch : Fetch) : judge wiring fetch = .panics ↔ wiring.serializer = none := by
  unfold judge
  split
  next unset => simp [unset]
  next deserialize set =>
    simp only [set, reduceCtorEq, iff_false]
    split
    next => nofun
    split
    next => nofun
    split <;> nofun

theorem processMessage_panicked_iff (fetch : Fetch) :
    (processMessage wiring state fetch).consumer = .panicked ↔ wiring.serializer = none := by
  rw [← judge_panics_iff fetch, processMessage]
  cases judge wiring fetch <;> simp

theorem panicked_iff (reached : (machine wiring).Reachable state) :
    state.consumer = .panicked ↔ wiring.serializer = none ∧ state.fetched ≠ [] := by
  apply reached.invariant
    (fun state => state.consumer = .panicked ↔ wiring.serializer = none ∧ state.fetched ≠ [])
  · intro state initial
    rw [initial]
    simp [State.initial]
  · intro state action after _ before _ stepped
    obtain ⟨running, moved⟩ := step_cases stepped
    have none := mt before.mpr running
    cases moved with
    | fetch fetch =>
      rw [processMessage_panicked_iff]
      simp [processMessage]
    | _ => simp_all

end Consumer

/-- In every state of the process, no method was called on an unset serializer exactly if each of the two
serializers is set or has not been needed: no event was handed to the producer, and no message was fetched. -/
theorem intact_iff_unneeded (engine : RegexpEngine) (timeString : Time → String)
    (publishing : Option (Event → Except String Bytes)) (wiring : Wiring) {process : Process engine}
    (running : Running engine timeString publishing wiring process) :
    Intact process ↔ (publishing ≠ none ∨ process.1.2.handed = []) ∧
      (wiring.serializer ≠ none ∨ ∀ call ∈ process.2.calls, call.pipe.fetched = []) := by
  have producing : (publisherMachine timeString publishing).Reachable process.1 :=
    Machine.Reaches.left (fun _ _ _ => trivial) running
  have consuming : (gatewayMachine engine wiring).Reachable process.2 :=
    Machine.Reaches.right (fun _ _ _ => trivial) running
  apply and_congr
  · rw [← Bool.not_eq_true, (sound_of_reached producing).crashed, not_and_or, not_not]
  · have each : process.2.Alive ↔ ∀ call ∈ process.2.calls, wiring.serializer ≠ none ∨ call.pipe.fetched = [] := by
      apply forall₂_congr
      intro call member
      rw [ne_eq, panicked_iff (pipe_reachable consuming call member), not_and_or, not_not]
    rw [each]
    by_cases unset : wiring.serializer = none
    · simp [unset]
    · simp [unset]

def willingAnswers : Answers where
  now := fun number => number
  validate := fun _ _ _ => .ok ()
  writer := fun _ => willingWriter

def ingestOne : PublisherAction ⊕ GatewayAction := .inl (.ingestEvent willingAnswers (sampleRequest ""))

def fetchOne : List (PublisherAction ⊕ GatewayAction) :=
  [.inr (.subscribe (some ⟨none⟩) 1 1), .inr (.register 0), .inr (.adapter 0), .inr (.pipe 0 .poll),
    .inr (.pipe 0 (.fetch (sampleFetch 0)))]

def newProcess (publishing : Option (Event → Except String Bytes)) : Process .none :=
  ((.newInMemoryEventStore storeRetention 0,
      ⟨{ newProducer (fun _ => "") with serializer := publishing }, false, [], 0⟩), .initial)

theorem newProcess_init (publishing : Option (Event → Except String Bytes)) (wiring : Wiring) :
    ((publisherMachine (fun _ => "") publishing).interleave (gatewayMachine .none wiring)).init
      (newProcess publishing) :=
  ⟨⟨⟨0, rfl⟩, rfl⟩, rfl⟩

theorem intact_iff_unneeded_set : ∃ process,
    Running .none (fun _ => "") (some (fun event => .ok event.data)) jsonWiring process ∧
    (process.1.2.handed.length = 1 ∧ ∃ call ∈ process.2.calls, call.pipe.fetched = [sampleFetch 0]) ∧
    Intact process := by
  obtain ⟨process, running, found⟩ := Machine.reaches_of_run _ (fun process _ => Intact process) _
    (ingestOne :: fetchOne) (fun process => decide (process.1.2.handed.length = 1 ∧
      ∃ call ∈ process.2.calls, call.pipe.fetched = [sampleFetch 0]))
    (newProcess_init (some (fun event => .ok event.data)) jsonWiring) (by decide +kernel)
  refine ⟨process, running, of_decide_eq_true found, ?_⟩
  exact (intact_iff_unneeded .none _ _ _ running).mpr ⟨.inl nofun, .inl nofun⟩

/-- As `run` leaves the process, the first event that is ingested ends it, and so does the first message
that is fetched. -/
theorem run_panics :
    (∃ process, Running .none (fun _ => "") none runWiring process ∧ process.1.2.crashed = true) ∧
    ∃ process, Running .none (fun _ => "") none runWiring process ∧ ¬process.2.Alive := by
  constructor
  · exact Machine.reaches_of_run _ (fun process _ => Intact process) _ [ingestOne]
      (fun process => process.1.2.crashed) (newProcess_init none runWiring) (by decide +kernel)
  · obtain ⟨process, running, found⟩ := Machine.reaches_of_run _ (fun process _ => Intact process) _ fetchOne
      (fun process => decide (¬process.2.Alive)) (newProcess_init none runWiring) (by decide +kernel)
    exact ⟨process, running, of_decide_eq_true found⟩

end EventGateway.System
