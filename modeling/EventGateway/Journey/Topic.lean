import EventGateway.Journey.Stages
import EventGateway.Kafka.Reencoding
import EventGateway.Subscription.Delivery

/-! What is in the topic, and what a subscriber gets of it. Every message carries a stored event, and every stored event
conveys one that a client sent. So no message is skipped by a consumer, whatever a subscriber receives was sent by a
client, and what was acknowledged to a client is in the topic. -/

namespace EventGateway.Journey
open Lib Lib.Json Ingest Kafka Replay Subscription Api

def Intake.Arrives (intake : Intake) (event : Event) : Prop :=
  ∃ data, compact intake.submitted.data = some data ∧
    Reproduces { intake.wanted with data } (eventEntityToProto event)

section Decoding

theorem valid_of_serialize {rfc3339 : Time → String} {e : Event} {text : Text}
    (written : serialize rfc3339 (some e) = .ok text) : valid e.data = true := by
  by_contra broken
  have raw : dataMember e.data = none := by
    rw [dataMember, if_neg e.data_ne, compact, if_neg broken]
    rfl
  simp only [serialize, marshalJSON, raw] at written
  cases written

theorem deserialize_written {rfc3339 : Time → String} {e : Event} {text : Text}
    (written : serialize rfc3339 (some e) = .ok text) (positive : 0 < e.priority) (timestamp createdAt : Time) :
    ∃ e', deserialize text timestamp createdAt = .ok e' ∧ Reencoded e e' := by
  obtain ⟨data, present, compacted, settled, -, same⟩ := serialize_replaceData rfc3339 (valid_of_serialize written)
  have settled : Settled (replaceData e data present).data := settled
  rw [same] at written
  have shallow : depth (replaceData e data present).data < maxNestingDepth := by
    by_contra deep
    rw [serialize_settled rfc3339 settled, if_neg deep] at written
    cases written
  obtain ⟨text', wrote, read⟩ := deserialize_serialize rfc3339 settled shallow timestamp createdAt
  cases wrote.symm.trans written
  exact ⟨_, read, rfl, rfl, rfl, rfl, compacted, rfl, rfl, rfl, rfl, rfl, rfl, if_pos positive⟩

theorem Intake.Conveyed.positive {intake : Intake} {event : Event} (conveyed : intake.Conveyed event) :
    0 < event.priority := by
  have known : priorityDomainToProto event.priority ≠ 0 := by
    change (eventEntityToProto event).priority ≠ 0
    by_cases given : 1 ≤ intake.wanted.priority ∧ intake.wanted.priority ≤ 4
    · rw [conveyed.priorityKept given]
      intro zero
      rw [zero] at given
      exact absurd given.1 (by decide)
    · rw [conveyed.priorityMedium given]
      decide
  unfold priorityDomainToProto at known
  split_ifs at known with low medium high critical
  · exact low ▸ (by decide)
  · exact medium ▸ (by decide)
  · exact high ▸ (by decide)
  · exact critical ▸ (by decide)
  · exact absurd rfl known

theorem Intake.Conveyed.arrives {intake : Intake} {event decoded : Event} (conveyed : intake.Conveyed event)
    (same : Reencoded event decoded) : intake.Arrives decoded := by
  have data : event.data = intake.submitted.data := conveyed.data
  refine ⟨decoded.data, data ▸ same.data, ?_⟩
  have fields : eventEntityToProto decoded =
      { eventEntityToProto event with data := decoded.data, timestamp := decoded.timestamp } := by
    simp only [eventEntityToProto, same.id, same.source, same.eventType, same.subject, same.dataContentType,
      same.schemaURL, same.metadata, same.correlationID, same.causationID, same.partitionKey, same.priority]
  rw [fields]
  exact { conveyed with data := rfl }

end Decoding

section Tracing
variable {ω : Type} {engine : RegexpEngine} {world : World ω} {relay after : Relay ω engine} {way next : Way}
  {ways : List Way} {event : Event}

def InTopic (world : World ω) (relay : Relay ω engine) (event : Event) : Prop :=
  ∃ message ∈ relay.topic, world.encode event = .ok message.value

structure OnWay (world : World ω) (relay : Relay ω engine) (way : Way) : Prop where
  intakes : ∀ intake ∈ way.intakes, intake ∈ relay.received
  kept : ∀ event ∈ way.kept, event ∈ relay.stored
  written : ∀ event ∈ way.written, event ∈ relay.stored ∧ InTopic world relay event

structure Traced (world : World ω) (relay : Relay ω engine) : Prop where
  stored : ∀ event ∈ relay.stored, ∃ intake ∈ relay.received, intake.Conveyed event
  topic : ∀ message ∈ relay.topic, ∃ event ∈ relay.stored, world.encode event = .ok message.value
  answered : ∀ answer ∈ relay.answered, ∃ event ∈ relay.stored, event.id = answer.2 ∧
    answer.1.Conveyed event ∧ InTopic world relay event

structure Grows (relay after : Relay ω engine) : Prop where
  received : relay.received ⊆ after.received
  stored : relay.stored ⊆ after.stored
  topic : relay.topic ⊆ after.topic

theorem InTopic.mono (grows : Grows relay after) (there : InTopic world relay event) : InTopic world after event := by
  obtain ⟨message, member, encoded⟩ := there
  exact ⟨message, grows.topic member, encoded⟩

theorem OnWay.mono (grows : Grows relay after) (on : OnWay world relay way) : OnWay world after way where
  intakes intake member := grows.received (on.intakes intake member)
  kept event member := grows.stored (on.kept event member)
  written event member := ⟨grows.stored (on.written event member).1, (on.written event member).2.mono grows⟩

theorem storeEvent_frame (world : World ω) (event : Event) (relay : Relay ω engine) :
    (storeEvent world event relay).2.received = relay.received ∧
      (storeEvent world event relay).2.stored = relay.stored ++ [event] ∧
      (storeEvent world event relay).2.topic = relay.topic ∧
      (storeEvent world event relay).2.answered = relay.answered ∧
      (storeEvent world event relay).2.gateway = relay.gateway := by
  simp only [storeEvent]
  split
  next => exact ⟨rfl, rfl, rfl, rfl, rfl⟩
  next => exact ⟨rfl, rfl, rfl, rfl, rfl⟩

theorem Moves.grows (moved : Moves world way relay after next) : Grows relay after := by
  cases moved with
  | aside => exact ⟨List.Subset.refl _, List.Subset.refl _, List.Subset.refl _⟩
  | receive => exact ⟨List.subset_append_left _ _, List.Subset.refl _, List.Subset.refl _⟩
  | store intake event =>
    obtain ⟨received, stored, topic, -, -⟩ := storeEvent_frame world event relay
    exact ⟨received.symm ▸ List.Subset.refl _, stored.symm ▸ List.subset_append_left _ _, topic.symm ▸ List.Subset.refl _⟩
  | write => exact ⟨List.Subset.refl _, List.Subset.refl _, List.subset_append_left _ _⟩
  | respond => exact ⟨List.Subset.refl _, List.Subset.refl _, List.Subset.refl _⟩

theorem OnWay.move (on : OnWay world relay way) (moved : Moves world way relay after next) : OnWay world after next := by
  have still := on.mono moved.grows
  cases moved with
  | aside => exact still
  | receive intakes => exact ⟨fun _ member => List.mem_append_right _ member, nofun, nofun⟩
  | store intake event =>
    obtain ⟨-, stored, -⟩ := storeEvent_frame world event relay
    refine ⟨still.intakes, ?_, still.written⟩
    intro other member
    rcases List.mem_append.mp member with old | new
    · exact still.kept other old
    · rw [stored]
      exact List.mem_append_right _ new
  | write event value kept encoded outer landed written acknowledged =>
    refine ⟨still.intakes, still.kept, ?_⟩
    rcases acknowledged with rfl | ⟨rfl, some⟩
    · exact still.written
    · intro other member
      rcases List.mem_append.mp member with old | new
      · exact still.written other old
      · cases List.mem_singleton.mp new
        obtain ⟨place, rest, rfl⟩ := List.exists_cons_of_ne_nil some
        exact ⟨still.kept event kept, ⟨place.1, place.2, value⟩, List.mem_append_right _ List.mem_cons_self, encoded⟩
  | respond => exact still

theorem Traced.move (traced : Traced world relay) (on : OnWay world relay way)
    (moved : Moves world way relay after next) : Traced world after := by
  have grows := moved.grows
  cases moved with
  | aside => exact ⟨traced.stored, traced.topic, traced.answered⟩
  | receive intakes =>
    refine ⟨?_, traced.topic, traced.answered⟩
    intro event member
    obtain ⟨intake, known, conveyed⟩ := traced.stored event member
    exact ⟨intake, List.mem_append_left _ known, conveyed⟩
  | store intake event known conveyed =>
    obtain ⟨received, stored, topic, answered, -⟩ := storeEvent_frame world event relay
    constructor
    · intro other member
      rw [stored] at member
      rw [received]
      rcases List.mem_append.mp member with old | new
      · exact traced.stored other old
      · cases List.mem_singleton.mp new
        exact ⟨intake, on.intakes intake known, conveyed⟩
    · intro message member
      rw [topic] at member
      obtain ⟨other, inside, encoded⟩ := traced.topic message member
      exact ⟨other, grows.stored inside, encoded⟩
    · intro answer member
      rw [answered] at member
      obtain ⟨other, inside, id, own, there⟩ := traced.answered answer member
      exact ⟨other, grows.stored inside, id, own, there.mono grows⟩
  | write event value kept encoded outer landed written acknowledged =>
    refine ⟨traced.stored, ?_, ?_⟩
    · intro message member
      rcases List.mem_append.mp member with old | new
      · exact traced.topic message old
      · obtain ⟨place, -, rfl⟩ := List.mem_map.mp new
        exact ⟨event, on.kept event kept, encoded⟩
    · intro answer member
      obtain ⟨other, inside, id, own, there⟩ := traced.answered answer member
      exact ⟨other, inside, id, own, there.mono grows⟩
  | respond outer intake event known written conveyed =>
    refine ⟨traced.stored, traced.topic, ?_⟩
    intro answer member
    rcases List.mem_append.mp member with old | new
    · exact traced.answered answer old
    · cases List.mem_singleton.mp new
      exact ⟨event, (on.written event written).1, rfl, conveyed, (on.written event written).2⟩

theorem happen_cases {happening : Happening} (happened : relay.happen happening = some after) :
    (∃ clock breaker, relay.clock ≤ clock ∧ after = { relay with clock, breaker }) ∨
    ∃ action gateway, relay.gateway.step jsonWiring action = some gateway ∧
      (∀ fetch ∈ fetchedBy action, fetch.message ∈ relay.topic) ∧ after = { relay with gateway } := by
  cases happening with
  | tick passed =>
    cases happened
    exact .inl ⟨_, relay.breaker, Int.le_add_of_nonneg_right (Int.natCast_nonneg _), rfl⟩
  | autoReset =>
    obtain ⟨-, same⟩ := Option.ite_none_right_eq_some.mp happened
    cases same
    exact .inl ⟨relay.clock, _, le_rfl, rfl⟩
  | subscription action =>
    obtain ⟨fetches, moved⟩ := Option.ite_none_right_eq_some.mp happened
    obtain ⟨gateway, stepped, same⟩ := Option.map_eq_some_iff.mp moved
    cases same
    exact .inr ⟨action, gateway, stepped, fetches, rfl⟩

def Way.start : Way := ⟨[], [], []⟩

theorem traced_of_marches (marched : Marches Relay.Fresh (fun _ : Incoming => Way.start) Relay.happen (Moves world)
    relay ways) : Traced world relay ∧ ∀ way ∈ ways, OnWay world relay way := by
  induction marched with
  | start fresh =>
    refine ⟨⟨?_, ?_, ?_⟩, nofun⟩
    · rw [fresh.stored]
      exact nofun
    · rw [fresh.topic]
      exact nofun
    · rw [fresh.answered]
      exact nofun
  | join _ request ih =>
    refine ⟨ih.1, fun way member => ?_⟩
    rcases List.mem_append.mp member with old | new
    · exact ih.2 way old
    · cases List.mem_singleton.mp new
      exact ⟨nofun, nofun, nofun⟩
  | move _ found moved ih =>
    have own := ih.2 _ (List.mem_of_getElem? found)
    refine ⟨ih.1.move own moved, fun way member => ?_⟩
    rcases List.mem_or_eq_of_mem_set member with old | rfl
    · exact (ih.2 way old).mono moved.grows
    · exact own.move moved
  | disturb _ happened ih =>
    rcases happen_cases happened with ⟨clock, breaker, -, rfl⟩ | ⟨action, gateway, -, -, rfl⟩
    · exact ⟨⟨ih.1.stored, ih.1.topic, ih.1.answered⟩, fun way member => ⟨(ih.2 way member).intakes,
        (ih.2 way member).kept, (ih.2 way member).written⟩⟩
    · exact ⟨⟨ih.1.stored, ih.1.topic, ih.1.answered⟩, fun way member => ⟨(ih.2 way member).intakes,
        (ih.2 way member).kept, (ih.2 way member).written⟩⟩

end Tracing

section Feeding
variable {ω : Type} {engine : RegexpEngine} {world : World ω} {relay : Relay ω engine} {ways : List Way}

theorem step_fetched {wiring : Wiring} {state after : Subscription.State} {action : Action}
    (stepped : step wiring state action = some after) :
    after.fetched = state.fetched ∨ ∃ fetch, action = .fetch fetch ∧ after.fetched = state.fetched ++ [fetch] := by
  cases (step_cases stepped).2 with
  | fetch fetch => exact .inr ⟨fetch, rfl, rfl⟩
  | _ => exact .inl rfl

/-- A step of the gateway adds the message that it fetches to the pipeline that it steps, if any. -/
theorem pipeStep_fetched {wiring : Wiring} {label : Option Action}
    {before next : Option Subscription.State} {known : Message → Prop} (moved : PipeStep wiring label before next)
    (old : ∀ state ∈ before, ∀ fetch ∈ state.fetched, known fetch.message)
    (new : ∀ fetch, label = some (.fetch fetch) → known fetch.message) :
    ∀ state ∈ next, ∀ fetch ∈ state.fetched, known fetch.message := by
  cases moved with
  | other => exact old
  | begun =>
    rintro _ ⟨⟩
    exact nofun
  | own action state after origin stepped =>
    rintro _ ⟨⟩ fetch member
    rcases step_fetched stepped with same | ⟨taken, rfl, grown⟩
    · exact old state rfl fetch (same ▸ member)
    · rw [grown] at member
      rcases List.mem_append.mp member with earlier | last
      · exact old state rfl fetch earlier
      · cases List.mem_singleton.mp last
        rcases origin with own | ⟨-, behalf⟩
        · exact new fetch own
        · cases behalf

theorem fetchedBy_of_pipeAction {action : GatewayAction} {index : Nat} {fetch : Fetch}
    (named : action.pipeAction index = some (.fetch fetch)) : fetchedBy action = some fetch := by
  cases action with
  | pipe other own =>
    obtain ⟨-, same⟩ := Option.ite_none_right_eq_some.mp named
    cases same
    rfl
  | _ => cases named

structure Fed (relay : Relay ω engine) : Prop where
  reached : (gatewayMachine engine jsonWiring).Reachable relay.gateway
  fetched : ∀ index, ∀ state ∈ relay.gateway.pipeOf index, ∀ fetch ∈ state.fetched, fetch.message ∈ relay.topic

theorem fed_of_marches (marched : Marches Relay.Fresh (fun _ : Incoming => Way.start) Relay.happen (Moves world)
    relay ways) : Fed relay := by
  induction marched with
  | start fresh =>
    constructor
    · rw [fresh.gateway]
      exact .start rfl
    · intro index state there
      rw [fresh.gateway] at there
      cases there
  | join _ _ ih => exact ih
  | @move relay after ways index way next _ _ moved ih =>
    have same : after.gateway = relay.gateway := by
      cases moved with
      | store intake event => exact (storeEvent_frame world event relay).2.2.2.2
      | _ => rfl
    exact ⟨same.symm ▸ ih.reached, fun index state there fetch member =>
      moved.grows.topic (ih.fetched index state (same ▸ there) fetch member)⟩
  | disturb _ happened ih =>
    rcases happen_cases happened with ⟨clock, breaker, -, rfl⟩ | ⟨action, gateway, stepped, fetches, rfl⟩
    · exact ⟨ih.reached, ih.fetched⟩
    · refine ⟨.next ih.reached trivial stepped, fun index => ?_⟩
      exact pipeStep_fetched (pipeStep_cases stepped index) (ih.fetched index)
        (fun fetch named => fetches fetch (fetchedBy_of_pipeAction named))

end Feeding

section Runs
variable {ω : Type} {engine : RegexpEngine} {world : World ω} {crew : Crew (Relay ω engine) Ended}

theorem marched_of_reachable (reached : (relayMachine engine world).Reachable crew) :
    ∃ ways, Marches Relay.Fresh (fun _ : Incoming => Way.start) Relay.happen (Moves world) crew.shared ways := by
  have follows (incoming : Incoming) : (serve world incoming : Job (Relay ω engine) Ended).Follows (Moves world)
      (fun _ _ => True) Way.start := serve_follows incoming
  obtain ⟨ways, marched, -⟩ := marches_of_reachable follows reached
  exact ⟨ways, marched⟩

theorem traced_of_reachable (reached : (relayMachine engine world).Reachable crew) :
    Traced world crew.shared ∧ Fed crew.shared := by
  obtain ⟨ways, marched⟩ := marched_of_reachable reached
  exact ⟨(traced_of_marches marched).1, fed_of_marches marched⟩

end Runs
end EventGateway.Journey
