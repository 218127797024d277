import EventGateway.Lib.Conduit
import EventGateway.Subscription.Pipeline

/-! What reaches the client. The consume loop, `forwardEvents` with the broker channel, and
`SubscribeEvents` with the output channel are three conduits in a row, from the accepted
messages to the sent events. The order of delivery follows at once; the committed offsets
run ahead of the sent events unless every commit waits for the pipeline to drain. -/

namespace EventGateway.Subscription
open Lib

def ConsumerAt.held : ConsumerAt → List Envelope
  | .sending envelope => [envelope]
  | _ => []

def ForwarderAt.held : ForwarderAt → List Envelope
  | .holding envelope => [envelope]
  | _ => []

def HandlerAt.held : HandlerAt → List Envelope
  | .sending envelope => [envelope]
  | _ => []

def ConsumerAt.between : ConsumerAt → Bool
  | .polling | .leaving | .stopped => true
  | _ => false

/-- The loop can still fetch or pass on a message. It cannot once it is between two messages
with its context done, which is where dropping an event leaves it. -/
def State.consuming (state : State) : Prop := ¬(state.ctxDone ∧ state.consumer.between)

section Flow
variable {wiring : Wiring} {state after : State} {enqueued forwarded : List Envelope} {action : Action}

/-- The three stages, for the events that went into the broker channel and those that went
into the output channel. -/
structure Flow (wiring : Wiring) (state : State) (enqueued forwarded : List Envelope) : Prop where
  consumer : Conduit state.consuming (accepted wiring state.fetched) state.consumer.held enqueued
  forwarder : Conduit (state.forwarder ≠ .stopped) enqueued (state.forwarder.held ++ state.broker) forwarded
  handler : Conduit (state.handler ≠ .returned) forwarded (state.handler.held ++ state.out) state.sent

theorem consuming_of_busy (busy : state.consumer.between = false) : state.consuming := by
  simp [State.consuming, busy]

theorem Flow.initial : Flow wiring .initial [] [] := ⟨.empty, .empty, .empty⟩

theorem Flow.atConsumer (flow : Flow wiring state enqueued forwarded)
    (fetched : accepted wiring after.fetched = accepted wiring state.fetched)
    (held : after.consumer.held = state.consumer.held) (still : after.consuming → state.consuming)
    (others : (after.broker, after.forwarder, after.out, after.handler, after.sent) =
      (state.broker, state.forwarder, state.out, state.handler, state.sent)) :
    Flow wiring after enqueued forwarded := by
  simp only [Prod.mk.injEq] at others
  obtain ⟨broker, forwarder, out, handler, sent⟩ := others
  constructor
  · rw [fetched, held]
    exact flow.consumer.mono still
  · rw [broker, forwarder]
    exact flow.forwarder
  · rw [out, handler, sent]
    exact flow.handler

theorem accepted_snoc (wiring : Wiring) (fetched : List Fetch) (fetch : Fetch) :
    accepted wiring (fetched ++ [fetch]) = accepted wiring fetched ++ (acceptedOf wiring fetch).toList := by
  cases judged : acceptedOf wiring fetch <;> simp [accepted, List.filterMap_append, judged]

theorem Flow.fetch (flow : Flow wiring state enqueued forwarded) (fetch : Fetch)
    (here : state.consumer = .fetching) : Flow wiring (processMessage wiring state fetch) enqueued forwarded := by
  have consuming : state.consuming := consuming_of_busy (by rw [here]; rfl)
  have consumer := flow.consumer
  rw [here] at consumer
  refine ⟨?_, flow.forwarder, flow.handler⟩
  simp only [processMessage, accepted_snoc, acceptedOf]
  cases judge wiring fetch with
  | accepts event => exact consumer.enter (fun _ => consuming) _
  | panics =>
    rw [Option.toList_none, List.append_nil]
    exact consumer.mono (fun _ => consuming)
  | skips =>
    rw [Option.toList_none, List.append_nil]
    exact consumer.mono (fun _ => consuming)

/-- An event dropped at the broker channel: the loop comes back to its head for good. -/
theorem Flow.giveUp (flow : Flow wiring state enqueued forwarded) (done : state.ctxDone) :
    Flow wiring { state with consumer := .polling } enqueued forwarded :=
  ⟨flow.consumer.shut (fun ongoing => ongoing ⟨done, rfl⟩), flow.forwarder, flow.handler⟩

theorem Flow.enqueue (flow : Flow wiring state enqueued forwarded) {envelope : Envelope}
    (here : state.consumer = .sending envelope) :
    Flow wiring { state with
      consumer := .committing envelope.message, broker := state.broker ++ [envelope] }
      (enqueued ++ [envelope]) forwarded := by
  have consumer := flow.consumer
  rw [here] at consumer
  have forwarder := flow.forwarder.enter id envelope
  rw [List.append_assoc] at forwarder
  exact ⟨consumer.leave (consuming_of_busy (by rw [here]; rfl)), forwarder, flow.handler⟩

theorem Flow.released (flow : Flow wiring state enqueued forwarded) {envelope : Envelope}
    (here : state.forwarder = .holding envelope) :
    Conduit (ForwarderAt.waiting ≠ .stopped) enqueued (ForwarderAt.waiting.held ++ state.broker)
      (forwarded ++ [envelope]) := by
  have holding := flow.forwarder
  rw [here] at holding
  exact holding.leave nofun

theorem Flow.move (flow : Flow wiring state enqueued forwarded) (moved : Move wiring state action after) :
    ∃ enqueued forwarded, Flow wiring after enqueued forwarded := by
  cases moved with
  | start here | fetchFails here | report here | commit _ here | commitFails _ here =>
    exact ⟨_, _, flow.atConsumer rfl (by rw [here]; rfl) (fun _ => consuming_of_busy (by rw [here]; rfl)) rfl⟩
  | poll here ongoing =>
    exact ⟨_, _, flow.atConsumer rfl (by rw [here]; rfl) (fun _ closed => ongoing closed.1) rfl⟩
  | leave here | finish here =>
    exact ⟨_, _, flow.atConsumer rfl (by rw [here]; rfl) (fun still closed => still ⟨closed.1, rfl⟩) rfl⟩
  | fetch fetch here => exact ⟨_, _, flow.fetch fetch here⟩
  | giveUp here done => exact ⟨_, _, flow.giveUp done⟩
  | enqueue envelope here => exact ⟨_, _, flow.enqueue here⟩
  | subscribed here unstarted =>
    have forwarder := flow.forwarder
    have handler := flow.handler
    rw [unstarted] at forwarder
    rw [here] at handler
    exact ⟨_, _, flow.consumer, forwarder.mono nofun, handler.mono nofun⟩
  | forwardReceive envelope rest here next =>
    have forwarder := flow.forwarder
    rw [here, next] at forwarder
    exact ⟨_, _, flow.consumer, forwarder.mono nofun, flow.handler⟩
  | forwardSend envelope here room =>
    have handler := flow.handler.enter id envelope
    rw [List.append_assoc] at handler
    exact ⟨_, _, flow.consumer, flow.released here, handler⟩
  | forwardStop here done => exact ⟨_, _, flow.consumer, flow.forwarder.shut (fun running => running rfl), flow.handler⟩
  | handOver envelope here waiting drained =>
    have handler := flow.handler.enter id envelope
    rw [waiting, drained] at handler
    refine ⟨_, _, flow.consumer, flow.released here, ?_⟩
    change Conduit _ _ ([envelope] ++ state.out) _
    rw [drained]
    exact handler.mono nofun
  | handlerReceive envelope rest here next =>
    have handler := flow.handler
    rw [here, next] at handler
    exact ⟨_, _, flow.consumer, flow.forwarder, handler.mono nofun⟩
  | sendSucceeds envelope here =>
    have handler := flow.handler
    rw [here] at handler
    exact ⟨_, _, flow.consumer, flow.forwarder, handler.leave nofun⟩
  | handlerReturn ends => exact ⟨_, _, flow.consumer, flow.forwarder, flow.handler.shut (fun running => running rfl)⟩
  | cancelStream =>
    exact ⟨_, _, flow.atConsumer rfl rfl (fun still closed => still ⟨.inl rfl, closed.2⟩) rfl⟩
  | cancelSubscription => exact ⟨_, _, flow.consumer, flow.forwarder, flow.handler⟩
  | cancelConsumer =>
    exact ⟨_, _, flow.atConsumer rfl rfl (fun still closed => still ⟨.inr rfl, closed.2⟩) rfl⟩

end Flow

/-- In every reachable state the three stages carry the accepted messages to the client. -/
theorem flow_of_reachable {wiring : Wiring} {state : State} (reached : (machine wiring).Reachable state) :
    ∃ enqueued forwarded, Flow wiring state enqueued forwarded := by
  apply reached.invariant (fun state => ∃ enqueued forwarded, Flow wiring state enqueued forwarded)
  · intro state initial
    exact ⟨[], [], initial ▸ Flow.initial⟩
  · intro state action after _ flowing _ stepped
    obtain ⟨enqueued, forwarded, flow⟩ := flowing
    exact flow.move (step_cases stepped).2

/-- The client receives an initial segment of the accepted messages of the loop, in fetch
order, whatever the interleaving and wherever a cancellation falls. -/
theorem sent_ordered (wiring : Wiring) (state : State) (reached : (machine wiring).Reachable state) :
    state.sent <+: accepted wiring state.fetched := by
  obtain ⟨enqueued, forwarded, flow⟩ := flow_of_reachable reached
  exact ((flow.consumer.comp flow.forwarder).comp flow.handler).ordered

theorem sent_ordered_after_drop : ∃ state, (machine jsonWiring).Reachable state ∧
    (state.sent.length = 1 ∧ state.fetched.length = 2 ∧ state.consumer = .stopped) ∧
    state.sent <+: accepted jsonWiring state.fetched := by
  obtain ⟨state, reached, found⟩ := (machine jsonWiring).reaches_of_run (fun _ _ => True) .initial
    [.subscribed, .start, .poll, .fetch (sampleFetch 0), .enqueue, .commit true, .poll, .fetch (sampleFetch 1),
      .forwardReceive, .forwardSend, .handlerReceive, .cancelStream, .giveUp, .poll, .finish, .sendSucceeds]
    (fun state => decide (state.sent.length = 1 ∧ state.fetched.length = 2 ∧ state.consumer = .stopped))
    rfl (by decide +kernel)
  exact ⟨state, reached, of_decide_eq_true found, sent_ordered jsonWiring state reached⟩

def AtLeastOnce (wiring : Wiring) (state : State) : Prop :=
  ∀ envelope ∈ accepted wiring state.fetched, Covered state.committed envelope.message → envelope ∈ state.sent

instance (wiring : Wiring) (state : State) : Decidable (AtLeastOnce wiring state) :=
  inferInstanceAs (Decidable (∀ _ ∈ _, _))

def State.Drained (state : State) : Prop :=
  state.broker = [] ∧ state.forwarder = .waiting ∧ state.out = [] ∧ state.handler = .waiting

instance (state : State) : Decidable state.Drained := inferInstanceAs (Decidable (_ ∧ _))

def CommitsDrained (state : State) (action : Action) : Prop := action = .commit true → state.Drained

instance (state : State) (action : Action) : Decidable (CommitsDrained state action) :=
  inferInstanceAs (Decidable (_ → _))

section AtLeastOnce
variable {wiring : Wiring} {state after : State} {enqueued forwarded : List Envelope} {action : Action}

theorem Flow.sent_eq (flow : Flow wiring state enqueued forwarded) (busy : state.consumer.between = false)
    (idle : state.consumer.held = []) (drained : state.Drained) : accepted wiring state.fetched = state.sent := by
  obtain ⟨broker, forwarder, out, handler⟩ := drained
  have whole := ((flow.consumer.comp flow.forwarder).comp flow.handler).whole
    ⟨⟨consuming_of_busy busy, by rw [forwarder]; nofun⟩, by rw [handler]; nofun⟩
  simpa [broker, forwarder, out, handler, idle, ForwarderAt.held, HandlerAt.held] using whole

theorem atLeastOnce_fetch (fetch : Fetch) (fresh : ¬Covered state.committed fetch.message)
    (delivered : AtLeastOnce wiring state) : AtLeastOnce wiring (processMessage wiring state fetch) := by
  intro envelope received covered
  simp only [processMessage, accepted_snoc, List.mem_append] at received
  rcases received with earlier | new
  · exact delivered envelope earlier covered
  · have own : envelope.message = fetch.message := by
      simp only [acceptedOf] at new
      split at new
      next event judged =>
        rw [Option.toList_some, List.mem_singleton] at new
        rw [new]
      next => cases new
    exact absurd (own ▸ covered) fresh

theorem atLeastOnce_move (flow : Flow wiring state enqueued forwarded) (delivered : AtLeastOnce wiring state)
    (admitted : CommitsDrained state action) (moved : Move wiring state action after) :
    AtLeastOnce wiring after := by
  cases moved with
  | fetch fetch here fresh => exact atLeastOnce_fetch fetch fresh delivered
  | commit message here =>
    have sent := flow.sent_eq (by rw [here]; rfl) (by rw [here]; rfl) (admitted rfl)
    intro envelope received _
    exact sent ▸ received
  | sendSucceeds envelope here =>
    intro other received covered
    exact List.mem_append_left _ (delivered other received covered)
  | _ => exact delivered

end AtLeastOnce

/-- If the loop commits only while the pipeline is drained, delivery is at least once. -/
theorem atLeastOnce_of_drained (wiring : Wiring) (state : State)
    (reached : (machine wiring).Reaches CommitsDrained state) : AtLeastOnce wiring state := by
  apply reached.invariant (AtLeastOnce wiring)
  · intro state initial
    subst initial
    nofun
  · intro state action after before delivered admitted stepped
    obtain ⟨enqueued, forwarded, flow⟩ := flow_of_reachable before.reachable
    exact atLeastOnce_move flow delivered admitted (step_cases stepped).2

theorem atLeastOnce_of_late_commit : ∃ state, (machine jsonWiring).Reaches CommitsDrained state ∧
    (state.committed ≠ [] ∧ accepted jsonWiring state.fetched ≠ []) ∧ AtLeastOnce jsonWiring state := by
  obtain ⟨state, reached, found⟩ := (machine jsonWiring).reaches_of_run CommitsDrained .initial
    [.subscribed, .start, .poll, .fetch (sampleFetch 0), .enqueue, .forwardReceive, .forwardSend,
      .handlerReceive, .sendSucceeds, .commit true]
    (fun state => decide (state.committed ≠ [] ∧ accepted jsonWiring state.fetched ≠ []))
    rfl (by decide +kernel)
  exact ⟨state, reached, of_decide_eq_true found, atLeastOnce_of_drained jsonWiring state reached⟩

/-- The loop commits as soon as the event is in the broker channel. When the client goes
away before it is sent, the handler has returned and the offset stays committed. -/
theorem committed_event_lost : ∃ state, (machine jsonWiring).Reachable state ∧
    state.handler = .returned ∧ ¬AtLeastOnce jsonWiring state := by
  obtain ⟨state, reached, found⟩ := (machine jsonWiring).reaches_of_run (fun _ _ => True) .initial
    [.subscribed, .start, .poll, .fetch (sampleFetch 0), .enqueue, .commit true, .cancelStream, .handlerReturn]
    (fun state => decide (state.handler = .returned ∧ ¬AtLeastOnce jsonWiring state))
    rfl (by decide +kernel)
  exact ⟨state, reached, of_decide_eq_true found⟩

end EventGateway.Subscription
