import EventGateway.Kafka.Serializer
import EventGateway.Lib.Machine

/-! One subscription as a state machine: the consume loop of `kafka.Consumer` started for it,
the broker channel, `forwardEvents`, its output channel, and the send loop of
`SubscribeEvents`. A label names the goroutine step that is taken next, so that every
interleaving is a run. -/

namespace EventGateway.Subscription
open Lib

structure Message where
  partition : Int64
  offset : Int64
  value : Bytes
  deriving DecidableEq

/-- A message as `FetchMessage` returned it, with the clock readings of its decoding. -/
structure Fetch where
  message : Message
  timestamp : Time
  createdAt : Time
  deriving DecidableEq

structure Envelope where
  message : Message
  event : Event
  deriving DecidableEq

/-- The settings of the consumer and of the subscription service. A field that Go leaves
at `nil` is `none`. -/
structure Wiring where
  serializer : Option (Bytes → Time → Time → Except Kafka.SerializerError Event)
  filter : Option (Event → Bool)
  channelBufferSize : Nat

/-- The capacity of the broker channel made by `messagebrokerAdapter.Subscribe`. -/
def brokerCapacity : Nat := 100

inductive Verdict where
  /-- A method call on the unset serializer. -/
  | panics
  /-- Not decodable, or turned down by the filter: committed at once. -/
  | skips
  | accepts (event : Event)

def judge (wiring : Wiring) (fetch : Fetch) : Verdict :=
  match wiring.serializer with
  | none => .panics
  | some deserialize =>
    match deserialize fetch.message.value fetch.timestamp fetch.createdAt with
    | .error _ => .skips
    | .ok event =>
      match wiring.filter with
      | none => .accepts event
      | some filter => if filter event then .accepts event else .skips

def acceptedOf (wiring : Wiring) (fetch : Fetch) : Option Envelope :=
  match judge wiring fetch with
  | .accepts event => some ⟨fetch.message, event⟩
  | _ => none

def accepted (wiring : Wiring) (fetched : List Fetch) : List Envelope :=
  fetched.filterMap (acceptedOf wiring)

def Covered (committed : List Message) (message : Message) : Prop :=
  ∃ mark ∈ committed, mark.partition = message.partition ∧ message.offset ≤ mark.offset

instance (committed : List Message) (message : Message) : Decidable (Covered committed message) :=
  inferInstanceAs (Decidable (∃ _ ∈ _, _))

inductive ConsumerAt where
  | idle
  /-- Before the select at the head of the loop. -/
  | polling
  | fetching
  /-- In the select of `handleFetchError`. -/
  | reporting
  /-- In the select of `sendEvent`. -/
  | sending (envelope : Envelope)
  | committing (message : Message)
  /-- Out of the loop, before the deferred reset of `isRunning`. -/
  | leaving
  | stopped
  | panicked
  deriving DecidableEq

/-- Where `forwardEvents` is; it closes the output channel when it stops. -/
inductive ForwarderAt where
  | unstarted
  | waiting
  | holding (envelope : Envelope)
  | stopped
  deriving DecidableEq

inductive HandlerAt where
  | subscribing
  | waiting
  | sending (envelope : Envelope)
  | returned
  deriving DecidableEq

/-- The last three fields are histories: the messages fetched by the loop, those whose
commit succeeded, and the events whose `stream.Send` returned nil. -/
structure State where
  consumer : ConsumerAt
  errorQueued : Bool
  broker : List Envelope
  forwarder : ForwarderAt
  out : List Envelope
  handler : HandlerAt
  streamDone : Bool
  subscriptionDone : Bool
  consumerDone : Bool
  fetched : List Fetch
  committed : List Message
  sent : List Envelope
  deriving DecidableEq

def State.initial : State where
  consumer := .idle
  errorQueued := false
  broker := []
  forwarder := .unstarted
  out := []
  handler := .subscribing
  streamDone := false
  subscriptionDone := false
  consumerDone := false
  fetched := []
  committed := []
  sent := []

/-- The consumer's context is a child of the stream's and is cancelled by `Unsubscribe`. -/
def State.ctxDone (state : State) : Prop := state.streamDone ∨ state.consumerDone

instance (state : State) : Decidable state.ctxDone := inferInstanceAs (Decidable (_ ∨ _))

inductive Action where
  /-- `Consumer.Subscribe` starts the loop. -/
  | start
  | poll
  | fetch (fetch : Fetch)
  /-- `FetchMessage` fails, but not with `context.Canceled`. -/
  | fetchFails
  /-- The error goes into the error channel, which nobody reads. -/
  | report
  /-- `FetchMessage` returns `context.Canceled`, or a select of the loop takes `ctx.Done()`. -/
  | giveUp
  | enqueue
  | commit (succeeds : Bool)
  /-- The deferred functions of `consumeMessages`. -/
  | finish
  /-- `SubscriptionService.Subscribe` spawns `forwardEvents` and returns to the handler. -/
  | subscribed
  | forwardReceive
  | forwardSend
  /-- A select of `forwardEvents` takes `ctx.Done()`. -/
  | forwardStop
  /-- A send of `forwardEvents` meets the waiting handler, which also an unbuffered channel
  allows. -/
  | handOver
  | handlerReceive
  | sendSucceeds
  /-- The output channel is closed and drained, the stream is cancelled, or `Send` failed. -/
  | handlerReturn
  | cancelStream
  | cancelSubscription
  | cancelConsumer
  deriving DecidableEq

def processMessage (wiring : Wiring) (state : State) (fetch : Fetch) : State :=
  { state with
    fetched := state.fetched ++ [fetch]
    consumer := match judge wiring fetch with
      | .panics => .panicked
      | .skips => .committing fetch.message
      | .accepts event => .sending ⟨fetch.message, event⟩ }

def State.handlerEnds (state : State) : Bool :=
  match state.handler with
  | .waiting => state.streamDone || decide (state.forwarder = .stopped ∧ state.out = [])
  | .sending _ => true
  | _ => false

def ConsumerAt.interruptible : ConsumerAt → Bool
  | .fetching | .reporting | .sending _ => true
  | _ => false

def ForwarderAt.running : ForwarderAt → Bool
  | .waiting | .holding _ => true
  | _ => false

def move (wiring : Wiring) (state : State) : Action → Option State
  | .start => if state.consumer = .idle then some { state with consumer := .polling } else none
  | .poll =>
    if state.consumer = .polling then
      some { state with consumer := if state.ctxDone then .leaving else .fetching }
    else none
  | .fetch fetch =>
    if state.consumer = .fetching ∧ ¬Covered state.committed fetch.message then
      some (processMessage wiring state fetch)
    else none
  | .fetchFails =>
    if state.consumer = .fetching then some { state with consumer := .reporting } else none
  | .report =>
    if state.consumer = .reporting ∧ state.errorQueued = false then
      some { state with consumer := .polling, errorQueued := true }
    else none
  | .giveUp =>
    if state.consumer.interruptible ∧ state.ctxDone then some { state with consumer := .polling }
    else none
  | .enqueue =>
    match state.consumer with
    | .sending envelope =>
      if state.broker.length < brokerCapacity then
        some { state with
          consumer := .committing envelope.message
          broker := state.broker ++ [envelope] }
      else none
    | _ => none
  | .commit succeeds =>
    match state.consumer with
    | .committing message =>
      some { state with
        consumer := .polling
        committed := if succeeds then state.committed ++ [message] else state.committed }
    | _ => none
  | .finish => if state.consumer = .leaving then some { state with consumer := .stopped } else none
  | .subscribed =>
    if state.handler = .subscribing ∧ state.forwarder = .unstarted then
      some { state with forwarder := .waiting, handler := .waiting }
    else none
  | .forwardReceive =>
    match state.forwarder, state.broker with
    | .waiting, envelope :: rest => some { state with forwarder := .holding envelope, broker := rest }
    | _, _ => none
  | .forwardSend =>
    match state.forwarder with
    | .holding envelope =>
      if state.out.length < wiring.channelBufferSize then
        some { state with forwarder := .waiting, out := state.out ++ [envelope] }
      else none
    | _ => none
  | .forwardStop =>
    if state.forwarder.running ∧ state.subscriptionDone then
      some { state with forwarder := .stopped }
    else none
  | .handOver =>
    match state.forwarder with
    | .holding envelope =>
      if state.handler = .waiting ∧ state.out = [] then
        some { state with forwarder := .waiting, handler := .sending envelope }
      else none
    | _ => none
  | .handlerReceive =>
    match state.handler, state.out with
    | .waiting, envelope :: rest => some { state with handler := .sending envelope, out := rest }
    | _, _ => none
  | .sendSucceeds =>
    match state.handler with
    | .sending envelope =>
      some { state with handler := .waiting, sent := state.sent ++ [envelope] }
    | _ => none
  | .handlerReturn =>
    if state.handlerEnds then some { state with handler := .returned } else none
  | .cancelStream => some { state with streamDone := true }
  | .cancelSubscription => some { state with subscriptionDone := true }
  | .cancelConsumer => some { state with consumerDone := true }

def step (wiring : Wiring) (state : State) (action : Action) : Option State :=
  if state.consumer = .panicked then none else move wiring state action

def machine (wiring : Wiring) : Machine State Action where
  init := (· = .initial)
  step := step wiring

def jsonWiring : Wiring where
  serializer := some Kafka.deserialize
  filter := none
  channelBufferSize := 1000

def sampleFetch (offset : Int64) : Fetch where
  message := {
    partition := 0
    offset := offset
    value := (Kafka.marshalJSON (fun _ => "1970-01-01T00:00:00Z") (Event.sample "order-1" 0)).getD [] }
  timestamp := offset.toInt
  createdAt := offset.toInt

inductive Move (wiring : Wiring) (state : State) : Action → State → Prop where
  | start (here : state.consumer = .idle) : Move wiring state .start { state with consumer := .polling }
  | poll (here : state.consumer = .polling) (ongoing : ¬state.ctxDone) :
      Move wiring state .poll { state with consumer := .fetching }
  | leave (here : state.consumer = .polling) (done : state.ctxDone) :
      Move wiring state .poll { state with consumer := .leaving }
  | fetch (fetch : Fetch) (here : state.consumer = .fetching)
      (fresh : ¬Covered state.committed fetch.message) :
      Move wiring state (.fetch fetch) (processMessage wiring state fetch)
  | fetchFails (here : state.consumer = .fetching) :
      Move wiring state .fetchFails { state with consumer := .reporting }
  | report (here : state.consumer = .reporting) (room : state.errorQueued = false) :
      Move wiring state .report { state with consumer := .polling, errorQueued := true }
  | giveUp (here : state.consumer.interruptible) (done : state.ctxDone) :
      Move wiring state .giveUp { state with consumer := .polling }
  | enqueue (envelope : Envelope) (here : state.consumer = .sending envelope)
      (room : state.broker.length < brokerCapacity) :
      Move wiring state .enqueue { state with
        consumer := .committing envelope.message, broker := state.broker ++ [envelope] }
  | commit (message : Message) (here : state.consumer = .committing message) :
      Move wiring state (.commit true) { state with
        consumer := .polling, committed := state.committed ++ [message] }
  | commitFails (message : Message) (here : state.consumer = .committing message) :
      Move wiring state (.commit false) { state with consumer := .polling }
  | finish (here : state.consumer = .leaving) :
      Move wiring state .finish { state with consumer := .stopped }
  | subscribed (here : state.handler = .subscribing) (unstarted : state.forwarder = .unstarted) :
      Move wiring state .subscribed { state with forwarder := .waiting, handler := .waiting }
  | forwardReceive (envelope : Envelope) (rest : List Envelope) (here : state.forwarder = .waiting)
      (next : state.broker = envelope :: rest) :
      Move wiring state .forwardReceive { state with forwarder := .holding envelope, broker := rest }
  | forwardSend (envelope : Envelope) (here : state.forwarder = .holding envelope)
      (room : state.out.length < wiring.channelBufferSize) :
      Move wiring state .forwardSend { state with forwarder := .waiting, out := state.out ++ [envelope] }
  | forwardStop (here : state.forwarder.running) (done : state.subscriptionDone) :
      Move wiring state .forwardStop { state with forwarder := .stopped }
  | handOver (envelope : Envelope) (here : state.forwarder = .holding envelope)
      (waiting : state.handler = .waiting) (drained : state.out = []) :
      Move wiring state .handOver { state with forwarder := .waiting, handler := .sending envelope }
  | handlerReceive (envelope : Envelope) (rest : List Envelope) (here : state.handler = .waiting)
      (next : state.out = envelope :: rest) :
      Move wiring state .handlerReceive { state with handler := .sending envelope, out := rest }
  | sendSucceeds (envelope : Envelope) (here : state.handler = .sending envelope) :
      Move wiring state .sendSucceeds { state with handler := .waiting, sent := state.sent ++ [envelope] }
  | handlerReturn (ends : state.handlerEnds) :
      Move wiring state .handlerReturn { state with handler := .returned }
  | cancelStream : Move wiring state .cancelStream { state with streamDone := true }
  | cancelSubscription : Move wiring state .cancelSubscription { state with subscriptionDone := true }
  | cancelConsumer : Move wiring state .cancelConsumer { state with consumerDone := true }

theorem move_cases {wiring : Wiring} {state after : State} {action : Action}
    (moved : move wiring state action = some after) : Move wiring state action after := by
  cases action <;> simp only [move, Option.ite_none_right_eq_some, Option.some.injEq] at moved
  case start =>
    obtain ⟨here, rfl⟩ := moved
    exact .start here
  case poll =>
    obtain ⟨here, rfl⟩ := moved
    split
    next done => exact .leave here done
    next ongoing => exact .poll here ongoing
  case fetch =>
    obtain ⟨⟨here, fresh⟩, rfl⟩ := moved
    exact .fetch _ here fresh
  case fetchFails =>
    obtain ⟨here, rfl⟩ := moved
    exact .fetchFails here
  case report =>
    obtain ⟨⟨here, room⟩, rfl⟩ := moved
    exact .report here room
  case giveUp =>
    obtain ⟨⟨here, done⟩, rfl⟩ := moved
    exact .giveUp here done
  case enqueue =>
    split at moved
    next envelope here =>
      obtain ⟨room, same⟩ := Option.ite_none_right_eq_some.mp moved
      cases same
      exact .enqueue envelope here room
    next => cases moved
  case commit succeeds =>
    split at moved
    next message here =>
      cases moved
      cases succeeds
      · exact .commitFails message here
      · exact .commit message here
    next => cases moved
  case finish =>
    obtain ⟨here, rfl⟩ := moved
    exact .finish here
  case subscribed =>
    obtain ⟨⟨here, unstarted⟩, rfl⟩ := moved
    exact .subscribed here unstarted
  case forwardReceive =>
    split at moved
    next envelope rest here next =>
      cases moved
      exact .forwardReceive envelope rest here next
    next => cases moved
  case forwardSend =>
    split at moved
    next envelope here =>
      obtain ⟨room, same⟩ := Option.ite_none_right_eq_some.mp moved
      cases same
      exact .forwardSend envelope here room
    next => cases moved
  case forwardStop =>
    obtain ⟨⟨here, done⟩, rfl⟩ := moved
    exact .forwardStop here done
  case handOver =>
    split at moved
    next envelope here =>
      obtain ⟨⟨waiting, drained⟩, same⟩ := Option.ite_none_right_eq_some.mp moved
      cases same
      exact .handOver envelope here waiting drained
    next => cases moved
  case handlerReceive =>
    split at moved
    next envelope rest here next =>
      cases moved
      exact .handlerReceive envelope rest here next
    next => cases moved
  case sendSucceeds =>
    split at moved
    next envelope here =>
      cases moved
      exact .sendSucceeds envelope here
    next => cases moved
  case handlerReturn =>
    obtain ⟨ends, rfl⟩ := moved
    exact .handlerReturn ends
  case cancelStream => exact moved ▸ .cancelStream
  case cancelSubscription => exact moved ▸ .cancelSubscription
  case cancelConsumer => exact moved ▸ .cancelConsumer

theorem step_cases {wiring : Wiring} {state after : State} {action : Action}
    (stepped : step wiring state action = some after) :
    state.consumer ≠ .panicked ∧ Move wiring state action after := by
  unfold step at stepped
  split at stepped
  next => cases stepped
  next alive => exact ⟨alive, move_cases stepped⟩

theorem idle_move {wiring : Wiring} {state after : State} {action : Action}
    (moved : Move wiring state action after) (started : action ≠ .start) :
    after.consumer = .idle ↔ state.consumer = .idle := by
  cases moved with
  | start => exact absurd rfl started
  | fetch fetch here =>
    simp only [processMessage, here]
    cases judge wiring fetch <;> simp
  | giveUp here =>
    have busy : state.consumer ≠ .idle := by
      intro idle
      rw [idle] at here
      cases here
    simp [busy]
  | poll here | leave here | fetchFails here | report here | finish here => simp [here]
  | enqueue _ here | commit _ here | commitFails _ here => simp [here]
  | _ => exact Iff.rfl

end EventGateway.Subscription
