import EventGateway.Subscription.Gateway

/-! What the filter of a request is good for. The adapter never hands it to the consumer: whatever decodes and passes the
consumer's own filter is sent, no matter what the client asked for. As `run()` wires the gateway nothing is sent at all,
since the first message ends the process. -/

namespace EventGateway.Subscription
open Lib
variable {engine : RegexpEngine} {wiring : Wiring}

theorem accepted_unset (unset : wiring.serializer = none) (fetched : List Fetch) :
    accepted wiring fetched = [] := by
  apply List.filterMap_eq_nil_iff.mpr
  intro fetch _
  simp only [acceptedOf, judge, unset]

theorem judge_of_acceptedOf {fetch : Fetch} {envelope : Envelope} (found : acceptedOf wiring fetch = some envelope) :
    ∃ event, judge wiring fetch = .accepts event ∧ envelope = ⟨fetch.message, event⟩ := by
  unfold acceptedOf at found
  split at found
  next event accepts => exact ⟨event, accepts, (Option.some.inj found).symm⟩
  next => cases found

theorem sent_accepted {gateway : Gateway engine} (reached : (gatewayMachine engine wiring).Reachable gateway)
    {call : Call engine} (member : call ∈ gateway.calls) : call.pipe.sent ⊆ accepted wiring call.pipe.fetched := by
  obtain ⟨enqueued, forwarded, flow⟩ := flow_of_reachable (pipe_reachable reached call member)
  exact ((flow.consumer.comp flow.forwarder).comp flow.handler).ordered.subset

theorem run_sends_nothing {gateway : Gateway engine} (reached : (gatewayMachine engine runWiring).Reachable gateway) :
    ∀ call ∈ gateway.calls, call.pipe.sent = [] := by
  intro call member
  have sent := sent_accepted reached member
  rw [accepted_unset rfl] at sent
  exact List.subset_nil.mp sent

theorem acceptedOf_some {deserialize : Bytes → Time → Time → Except Kafka.SerializerError Event}
    (serializer : wiring.serializer = some deserialize) {fetch : Fetch} {event : Event} :
    acceptedOf wiring fetch = some ⟨fetch.message, event⟩ ↔
      deserialize fetch.message.value fetch.timestamp fetch.createdAt = .ok event ∧
        ∀ keep ∈ wiring.filter, keep event = true := by
  simp only [acceptedOf, judge, serializer]
  cases deserialize fetch.message.value fetch.timestamp fetch.createdAt with
  | error err => simp
  | ok decoded =>
    cases wiring.filter with
    | none => simp
    | some keep =>
      simp only [Except.ok.injEq, Option.mem_some_iff, forall_eq']
      by_cases kept : keep decoded = true
      · simp only [if_pos kept, Option.some.injEq, Envelope.mk.injEq, true_and]
        exact ⟨fun same => ⟨same, same ▸ kept⟩, And.left⟩
      · simp only [if_neg kept, reduceCtorEq, false_iff, not_and]
        exact fun same passes => kept (same ▸ passes)

section Alone
variable {state after : State} {action : Action} {gateway : Gateway engine} {request : ProtoSubscribeRequest}

structure Alone (gateway : Gateway engine) (request : ProtoSubscribeRequest) (state : State) : Prop where
  only : ∃ call, gateway.calls = [call] ∧ call.request = request ∧ call.pipe = state ∧
    (call.pending ↔ state.consumer = .idle)
  free : state.consumer = .idle → gateway.running = none
  reader : gateway.readerClosed = false

def Uncancelled (_ : State) (action : Action) : Prop := action ≠ .cancelSubscription ∧ action ≠ .cancelConsumer

theorem setCall_only {call next : Call engine} (calls : gateway.calls = [call]) :
    (gateway.setCall 0 next).calls = [next] := by
  simp only [Gateway.setCall, calls, List.set_cons_zero]

theorem allows_only {call : Call engine} (calls : gateway.calls = [call]) (reader : gateway.readerClosed = false)
    (own : action.own) (moved : Move wiring call.pipe action after) : gateway.Allows action := by
  refine ⟨own, ?_⟩
  cases moved with
  | fetch fetch here fresh =>
    intro other same
    cases same
    simp only [reader, calls, List.mem_singleton, forall_eq, true_and]
    exact fresh
  | _ => nofun

theorem alone_step (alone : Alone gateway request state) (kept : Uncancelled state action)
    (stepped : step wiring state action = some after) :
    ∃ label next, gateway.step wiring label = some next ∧ Alone next request after := by
  obtain ⟨⟨call, calls, asked, rfl, pending⟩, free, reader⟩ := alone
  obtain ⟨running, moved⟩ := step_cases stepped
  have alive : gateway.Alive := by
    simp only [Gateway.Alive, calls, List.mem_singleton, forall_eq]
    exact running
  have found : gateway.calls[0]? = some call := by
    rw [calls]
    rfl
  by_cases starting : action = .start
  · subst starting
    obtain ⟨idle, busy⟩ : call.pipe.consumer = .idle ∧ after.consumer ≠ .idle := by
      cases moved with
      | start here => exact ⟨here, nofun⟩
    exact ⟨_, _, step_adapter alive found (pending.mpr idle) (free idle) stepped,
      ⟨_, setCall_only calls, asked, rfl, by simp [busy]⟩, (absurd · busy), reader⟩
  have same := idle_move moved starting
  by_cases registering : action = .subscribed
  · subst registering
    exact ⟨_, _, step_register alive found stepped,
      ⟨_, setCall_only calls, asked, rfl, pending.trans same.symm⟩, fun idle => free (same.mp idle), reader⟩
  · have own : action.own := by
      cases action <;> first | rfl | simp_all [Uncancelled]
    refine ⟨_, _, step_pipe alive found (allows_only calls reader own moved) stepped,
      ⟨_, setCall_only calls, asked, rfl, pending.trans same.symm⟩, ?_, reader⟩
    intro idle
    simp only [free (same.mp idle), ite_self]

/-- A gateway that serves one client takes every run of the pipeline without an unsubscription. -/
theorem gateway_of_pipeline {filter : EventFilter engine} (requested : requestedFilter engine request = some filter)
    (reached : (machine wiring).Reaches Uncancelled state) :
    ∃ gateway, (gatewayMachine engine wiring).Reachable gateway ∧ Alone gateway request state := by
  induction reached with
  | start initial =>
    have built := subscribeEvents_ok.mpr requested
    have alive : (Gateway.initial : Gateway engine).Alive := by
      intro call member
      exact absurd member List.not_mem_nil
    have taken : (gatewayMachine engine wiring).step .initial (.subscribe (some request) 0 0) = some _ :=
      step_subscribe wiring alive built
    refine ⟨_, .next (.start rfl) trivial taken, ⟨_, rfl, rfl, initial.symm, ?_⟩, fun _ => rfl, rfl⟩
    rw [initial]
    exact ⟨fun _ => rfl, fun _ => rfl⟩
  | next before admitted stepped ih =>
    obtain ⟨gateway, reached, alone⟩ := ih
    obtain ⟨label, next, taken, after⟩ := alone_step alone admitted stepped
    exact ⟨next, .next reached trivial taken, after⟩

end Alone

def served (fetch : Fetch) : List Action :=
  [.subscribed, .start, .poll, .fetch fetch, .enqueue, .forwardReceive, .handOver, .sendSucceeds]

instance (state : State) (action : Action) : Decidable (Uncancelled state action) :=
  inferInstanceAs (Decidable (_ ∧ _))

theorem served_sent {fetch : Fetch} {envelope : Envelope} (found : acceptedOf wiring fetch = some envelope) :
    ∃ state, (machine wiring).Reaches Uncancelled state ∧ state.sent = [envelope] := by
  obtain ⟨event, accepts, rfl⟩ := judge_of_acceptedOf found
  have ran : ((machine wiring).run Uncancelled .initial (served fetch)).map State.sent =
      some [⟨fetch.message, event⟩] := by
    simp [Machine.run, machine, step, move, served, State.initial, processMessage, accepts, State.ctxDone,
      Covered, brokerCapacity, Uncancelled]
  obtain ⟨state, ended, sent⟩ := Option.map_eq_some_iff.mp ran
  exact ⟨state, Machine.Reaches.run (served fetch) (.start rfl) ended, sent⟩

/-- A message that the consumer accepts can be sent to any client, whatever filter its request gives. -/
theorem accepted_sent {request : ProtoSubscribeRequest} {filter : EventFilter engine}
    (requested : requestedFilter engine request = some filter) {fetch : Fetch} {envelope : Envelope}
    (found : acceptedOf wiring fetch = some envelope) :
    ∃ gateway, (gatewayMachine engine wiring).Reachable gateway ∧ ∃ call ∈ gateway.calls,
      call.request = request ∧ call.filter = filter ∧ call.pipe.sent = [envelope] := by
  obtain ⟨state, reached, sent⟩ := served_sent found
  obtain ⟨gateway, reachable, alone⟩ := gateway_of_pipeline requested reached
  obtain ⟨call, calls, asked, rfl, -⟩ := alone.only
  have own : requestedFilter engine call.request = some call.filter := subscribeEvents_ok.mp call.built
  rw [asked, requested] at own
  exact ⟨gateway, reachable, call, by simp [calls], asked, (Option.some.inj own).symm, sent⟩

/-- Whatever is sent on the stream of a client with this request matches the filter that the client asked for. -/
def ReceivesRequested (engine : RegexpEngine) (wiring : Wiring) (request : ProtoSubscribeRequest) : Prop :=
  ∀ gateway, (gatewayMachine engine wiring).Reachable gateway → ∀ call ∈ gateway.calls, call.request = request →
    requestedFilter engine request = some call.filter ∧
      ∀ envelope ∈ call.pipe.sent, call.filter.matchesEvent envelope.event = true

/-- With a serializer set, a client receives only what it asked for if and only if nothing else is decoded and passes the
consumer's own filter. -/
theorem receivesRequested_iff (engine : RegexpEngine) (wiring : Wiring)
    (deserialize : Bytes → Time → Time → Except Kafka.SerializerError Event)
    (serializer : wiring.serializer = some deserialize) (request : ProtoSubscribeRequest) (filter : EventFilter engine)
    (requested : requestedFilter engine request = some filter) :
    ReceivesRequested engine wiring request ↔
      ∀ (fetch : Fetch) (event : Event),
        deserialize fetch.message.value fetch.timestamp fetch.createdAt = .ok event →
        (∀ keep ∈ wiring.filter, keep event = true) → filter.matchesEvent event = true := by
  constructor
  · intro receives fetch event decoded passes
    obtain ⟨gateway, reached, call, member, asked, rfl, sent⟩ :=
      accepted_sent requested ((acceptedOf_some serializer).mpr ⟨decoded, passes⟩)
    exact (receives gateway reached call member asked).2 ⟨fetch.message, event⟩ (sent ▸ List.mem_singleton_self _)
  · rintro matching gateway reached call member rfl
    have own : requestedFilter engine call.request = some call.filter := subscribeEvents_ok.mp call.built
    refine ⟨own, fun envelope sent => ?_⟩
    obtain ⟨fetch, -, found⟩ := List.mem_filterMap.mp (sent_accepted reached member sent)
    obtain ⟨event, -, rfl⟩ := judge_of_acceptedOf found
    obtain ⟨decoded, passes⟩ := (acceptedOf_some serializer).mp found
    cases requested.symm.trans own
    exact matching fetch event decoded passes

theorem receivesRequested_shared :
    let wiring := { jsonWiring with filter := some (EventFilter.matchAll .none).matchesEvent }
    ReceivesRequested .none wiring ⟨none⟩ ∧
      ∃ gateway, (gatewayMachine .none wiring).Reachable gateway ∧ ∃ call ∈ gateway.calls, call.pipe.sent ≠ [] := by
  intro wiring
  have requested : requestedFilter .none ⟨none⟩ = some (EventFilter.matchAll .none) := rfl
  constructor
  · refine (receivesRequested_iff .none wiring Kafka.deserialize rfl ⟨none⟩ _ requested).mpr ?_
    exact fun fetch event decoded passes => passes _ rfl
  · have accepts : (acceptedOf wiring (sampleFetch 0)).isSome = true := by decide +kernel
    obtain ⟨envelope, found⟩ := Option.isSome_iff_exists.mp accepts
    obtain ⟨gateway, reached, call, member, -, -, sent⟩ := accepted_sent requested found
    exact ⟨gateway, reached, call, member, sent ▸ List.cons_ne_nil _ _⟩

/-- A client that asks for critical events only is sent one of medium priority. -/
theorem filter_ignored : ∃ gateway, (gatewayMachine .none jsonWiring).Reachable gateway ∧
    (∃ call ∈ gateway.calls, call.request = ⟨some ⟨"", "", "", ∅, 4⟩⟩ ∧ call.filter.minPriority = priorityCritical ∧
      ∃ envelope ∈ call.pipe.sent, envelope.event.priority = priorityMedium ∧
        call.filter.matchesEvent envelope.event = false) ∧
    ¬ReceivesRequested .none jsonWiring ⟨some ⟨"", "", "", ∅, 4⟩⟩ := by
  have requested : requestedFilter .none ⟨some ⟨"", "", "", ∅, 4⟩⟩ =
      some { EventFilter.matchAll .none with minPriority := priorityCritical } := rfl
  have medium : (acceptedOf jsonWiring (sampleFetch 0)).map (fun envelope => envelope.event.priority) =
      some priorityMedium := by decide +kernel
  obtain ⟨envelope, found, priority⟩ := Option.map_eq_some_iff.mp medium
  obtain ⟨gateway, reached, call, member, asked, filter, sent⟩ := accepted_sent requested found
  have dropped : call.filter.matchesEvent envelope.event = false := by
    simp [filter, EventFilter.matchesEvent, priority, priorityMedium, priorityCritical]
  have sentOne : envelope ∈ call.pipe.sent := sent ▸ List.mem_singleton_self _
  refine ⟨gateway, reached, ⟨call, member, asked, by rw [filter], envelope, sentOne, priority, dropped⟩, ?_⟩
  intro receives
  have matched := (receives gateway reached call member asked).2 envelope sentOne
  exact Bool.false_ne_true (dropped.symm.trans matched)

end EventGateway.Subscription
