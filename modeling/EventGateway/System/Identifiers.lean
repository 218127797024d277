import EventGateway.Consumers.Registration
import EventGateway.Ingest.Session
import EventGateway.Registry.Handler
import EventGateway.Subscription.Accounting

/-! Generated IDs as keys. The event store, both repositories and the map of subscriptions are keyed by
them, and none of these looks at whether a key is taken. -/

namespace EventGateway.System
open Lib Lib.Calls

section Consumers
open Consumers
variable {engine : RegexpEngine}

/-- A call of `ConsumerService` that changes the repository. -/
inductive ConsumerCall where
  | register (request : RegisterConsumerRequest) (clock : Readings)
  | deregister (consumerID : String)

def ConsumerCall.draw : ConsumerCall → Option (Time × Time)
  | .register _ clock => some (clock.first, clock.second)
  | .deregister _ => none

def serveConsumer (consumers : Consumers.Repository engine) : ConsumerCall → Consumers.Repository engine
  | .register request clock => (register request clock consumers).2
  | .deregister consumerID => (deregister consumerID consumers).2

/-- No `Register` that succeeds finds its ID in use, whatever was called before. -/
def ConsumersKept (readings : Nat → Time) : Prop :=
  ∀ (engine : RegexpEngine) (calls : List ConsumerCall) (request : RegisterConsumerRequest) (clock : Readings),
  Drawn readings ((calls ++ [ConsumerCall.register request clock]).filterMap ConsumerCall.draw) →
  ∀ (consumerID : String) (after : Consumers.Repository engine),
  register request clock (calls.foldl serveConsumer ∅) = (.ok consumerID, after) →
  consumerID ∉ calls.foldl serveConsumer (∅ : Consumers.Repository engine)

theorem mem_serveConsumer {consumers : Consumers.Repository engine} {call : ConsumerCall} {id : String}
    (member : id ∈ serveConsumer consumers call) :
    id ∈ consumers ∨ ∃ draw ∈ call.draw, id = idText draw.1 draw.2 := by
  cases call with
  | register request clock =>
    simp only [serveConsumer, register] at member
    cases built : activeConsumer engine request clock with
    | error err =>
      simp only [built] at member
      exact .inl member
    | ok consumer =>
      simp only [built, Consumers.Repository.save] at member
      rcases Finmap.mem_insert.mp member with rfl | old
      · exact .inr ⟨_, rfl, (activeConsumer_fields built).1⟩
      · exact .inl old
  | deregister consumerID =>
    simp only [serveConsumer, deregister] at member
    split at member
    next => exact .inl member
    next =>
      simp only [Consumers.Repository.delete] at member
      exact .inl (Finmap.mem_erase.mp member).2

theorem mem_served {calls : List ConsumerCall} {consumers : Consumers.Repository engine} {id : String}
    (member : id ∈ calls.foldl serveConsumer consumers) :
    id ∈ consumers ∨ id ∈ idTexts (calls.filterMap ConsumerCall.draw) := by
  induction calls generalizing consumers with
  | nil => exact .inl member
  | cons call rest ih =>
    rw [idTexts, List.mem_map]
    simp only [List.mem_filterMap, List.mem_cons]
    rcases ih member with here | later
    · rcases mem_serveConsumer here with old | ⟨draw, drawn, rfl⟩
      · exact .inl old
      · exact .inr ⟨draw, ⟨call, .inl rfl, drawn⟩, rfl⟩
    · obtain ⟨draw, drawn, rfl⟩ := List.mem_map.mp later
      obtain ⟨other, there, same⟩ := List.mem_filterMap.mp drawn
      exact .inr ⟨draw, ⟨other, .inr there, same⟩, rfl⟩

theorem consumersKept_of_separates {readings : Nat → Time} (separates : Separates readings) :
    ConsumersKept readings := by
  intro engine calls request clock drawn consumerID after ran taken
  have apart := idTexts_nodup separates drawn
  obtain ⟨consumer, built, rfl, -⟩ := register_ok.mp ran
  rw [(activeConsumer_fields built).1] at taken
  rw [List.filterMap_append, idTexts, List.map_append, List.nodup_append] at apart
  rcases mem_served taken with empty | earlier
  · exact absurd empty Finmap.notMem_empty
  · exact apart.2.2 _ earlier _ List.mem_cons_self rfl

end Consumers

section Schemas
open Registry

def schemaDraw : Registry.Action → Option (Time × Time)
  | .register _ first second _ => some (first, second)
  | _ => none

/-- No save meets an ID that is already in use, in any run of `Register` calls. -/
def SchemasKept (readings : Nat → Time) : Prop :=
  ∀ (labels : List Registry.Action) (state : Registry.State),
  Registry.machine.run (fun _ _ => True) .initial labels = some state →
  Drawn readings (labels.filterMap schemaDraw) → ∀ index, Registry.FreshIDs state (.save index)

structure Numbered (ids : List String) (state : Registry.State) : Prop where
  calls : state.calls.length = ids.length
  built : ∀ (index : Nat) (call : RegisterCall) (schema : Schema), state.calls[index]? = some call →
    call.built = some schema → ids[index]? = some schema.id
  stored : ∀ id ∈ state.schemas, ∃ (index : Nat) (call : RegisterCall), state.calls[index]? = some call ∧
    call.built = none ∧ ids[index]? = some id

theorem Numbered.initial : Numbered [] .initial where
  calls := rfl
  built := fun _ _ _ found => by cases found
  stored := fun _ member => absurd member Finmap.notMem_empty

section Numbering
variable {ids : List String} {state after : Registry.State} {index : Nat} {call next : RegisterCall}

theorem Numbered.begin (numbered : Numbered ids state) {id : String}
    (own : ∀ schema, next.built = some schema → schema.id = id) :
    Numbered (ids ++ [id]) { state with calls := state.calls ++ [next] } := by
  have last : (ids ++ [id])[state.calls.length]? = some id := by
    rw [numbered.calls, List.getElem?_concat_length]
  constructor
  · simp [numbered.calls]
  · intro index call schema found carried
    rcases found_append found with ⟨rfl, rfl⟩ | old
    · rw [last, own schema carried]
    · exact getElem?_append_of_found (numbered.built index call schema old carried)
  · intro other member
    obtain ⟨index, call, found, done, drawn⟩ := numbered.stored other member
    exact ⟨index, call, getElem?_append_of_found found, done, getElem?_append_of_found drawn⟩

theorem Numbered.move (numbered : Numbered ids state) (found : state.calls[index]? = some call)
    (busy : call.built.isSome) (same : ∀ schema, next.built = some schema → call.built = some schema) :
    Numbered ids (state.setCall index next) := by
  constructor
  · rw [State.setCall, List.length_set, numbered.calls]
  · intro other call' schema there carried
    rcases found_set found there with ⟨rfl, rfl⟩ | ⟨-, old⟩
    · exact numbered.built other call schema found (same schema carried)
    · exact numbered.built other call' schema old carried
  · intro id member
    obtain ⟨other, call', there, done, drawn⟩ := numbered.stored id member
    refine ⟨other, call', ?_, done, drawn⟩
    rw [State.setCall, getElem?_set_of_found found, if_neg, there]
    rintro rfl
    cases found.symm.trans there
    rw [done] at busy
    cases busy

theorem numbered_step {action : Registry.Action} (numbered : Numbered ids state)
    (stepped : Registry.step state action = some after) :
    Numbered (ids ++ idTexts (schemaDraw action).toList) after := by
  cases Registry.step_cases stepped with
  | refused request first second createdAt err => exact numbered.begin nofun
  | register request first second createdAt schema built =>
    apply numbered.begin
    intro schema' carried
    cases carried
    exact (RegisterSchemaRequest.toEntity_ok built).1
  | duplicate index request schema err found =>
    exact (List.append_nil ids).symm ▸ numbered.move found rfl nofun
  | check index request schema found absent =>
    exact (List.append_nil ids).symm ▸ numbered.move found rfl (fun _ carried => carried)
  | save index request schema found =>
    have moved : Numbered ids (state.setCall index ⟨request, .returned (.ok schema.id)⟩) :=
      numbered.move found rfl nofun
    refine (List.append_nil ids).symm ▸ ⟨moved.calls, moved.built, ?_⟩
    intro id member
    rcases Finmap.mem_insert.mp member with rfl | old
    · refine ⟨index, ⟨request, .returned (.ok schema.id)⟩, ?_, rfl, numbered.built index _ schema found rfl⟩
      rw [State.setCall, getElem?_set_of_found found, if_pos rfl]
    · exact moved.stored id old

theorem numbered_run {labels : List Registry.Action} (numbered : Numbered ids state)
    (ran : Registry.machine.run (fun _ _ => True) state labels = some after) :
    Numbered (ids ++ idTexts (labels.filterMap schemaDraw)) after := by
  induction labels generalizing ids state with
  | nil =>
    cases ran
    exact (List.append_nil ids).symm ▸ numbered
  | cons label rest ih =>
    obtain ⟨next, -, stepped, later⟩ := Machine.run_cons ran
    rw [idTexts_filterMap_cons, ← List.append_assoc]
    exact ih (numbered_step numbered stepped) later

end Numbering

theorem schemasKept_of_separates {readings : Nat → Time} (separates : Separates readings) :
    SchemasKept readings := by
  intro labels state ran drawn index call found schema pending taken
  have apart := idTexts_nodup separates drawn
  have numbered := numbered_run Numbered.initial ran
  rw [List.nil_append] at numbered
  obtain ⟨request, stage⟩ := call
  cases stage with
  | saving schema' =>
    cases pending
    obtain ⟨other, owner, there, done, drawn⟩ := numbered.stored schema.id taken
    have own := numbered.built index _ schema found rfl
    cases index_unique apart own drawn
    cases found.symm.trans there
    cases done
  | checking | returned => cases pending

end Schemas

section Subscriptions
open Subscription
variable {engine : RegexpEngine}

def subscribeDraw : GatewayAction → Option (Time × Time)
  | .subscribe (some _) first second => some (first, second)
  | _ => none

/-- No `Subscribe` finds its ID in use when it enters the subscription in the map. -/
def SubscriptionsKept (readings : Nat → Time) : Prop :=
  ∀ (engine : RegexpEngine) (wiring : Wiring) (labels : List GatewayAction) (gateway : Gateway engine),
  (gatewayMachine engine wiring).run (fun _ _ => True) .initial labels = some gateway →
  Drawn readings (labels.filterMap subscribeDraw) →
  ∀ index, (gateway.step wiring (.register index)).isSome → Subscription.FreshIDs gateway (.register index)

section Gateway
variable {wiring : Wiring} {gateway after : Gateway engine} {ids : List String}

theorem ids_subscribe {request : Option ProtoSubscribeRequest} {first second : Time}
    (stepped : gateway.step wiring (.subscribe request first second) = some after) :
    (after.calls.map Call.id).Sublist
      (gateway.calls.map Call.id ++ idTexts (subscribeDraw (.subscribe request first second)).toList) := by
  obtain ⟨-, moved⟩ := Option.ite_none_right_eq_some.mp stepped
  cases request with
  | none =>
    cases moved
    exact List.sublist_append_left _ _
  | some request =>
    simp only [Gateway.move] at moved
    split at moved
    next =>
      cases moved
      exact List.sublist_append_left _ _
    next filter built =>
      cases moved
      rw [List.map_append]
      exact .refl _

theorem ids_move {action : GatewayAction} (moved : GatewayMove wiring gateway action after)
    (going : ∀ request first second, action ≠ .subscribe request first second) :
    after.calls.map Call.id = gateway.calls.map Call.id := by
  cases moved with
  | subscribe request first second => exact absurd rfl (going (some request) first second)
  | refused | unsubscribe | notRunning | close => rfl
  | adapterFails index owner call found => exact map_set_of_found found rfl
  | adapterStarts index call pipe found => exact map_set_of_found found rfl
  | register index call pipe found => exact map_set_of_found found rfl
  | pipe index action call pipe found => exact map_set_of_found found rfl
  | finish index call pipe found => exact map_set_of_found found rfl
  | cancel number index call pipe place found => exact map_set_of_found found rfl
  | stop number index call pipe place busy found => exact map_set_of_found found rfl

theorem ids_step {action : GatewayAction} (stepped : gateway.step wiring action = some after) :
    (after.calls.map Call.id).Sublist (gateway.calls.map Call.id ++ idTexts (subscribeDraw action).toList) := by
  cases action with
  | subscribe request first second => exact ids_subscribe stepped
  | adapter | register | pipe | unsubscribe | advance =>
    rw [ids_move (gatewayStep_cases stepped).2 nofun]
    exact List.sublist_append_left _ _

/-- A call that is still inside `Subscribe` has no entry, and with IDs all different nobody else has its key. -/
theorem freshIDs_of_nodup {action : GatewayAction} (booked : gateway.BooksKept)
    (apart : (gateway.calls.map Call.id).Nodup) (stepped : gateway.step wiring action = some after) :
    Subscription.FreshIDs gateway action := by
  cases action with
  | subscribe | adapter | pipe | unsubscribe | advance => trivial
  | register index =>
    intro call found taken
    obtain ⟨-, moved⟩ := Option.ite_none_right_eq_some.mp stepped
    simp only [Gateway.move, Option.bind_eq_bind, Option.bind_eq_some_iff] at moved
    obtain ⟨-, -, next, moved, -⟩ := moved
    obtain ⟨call', pipe, found', entered, -⟩ := movePipe_some moved
    cases found.symm.trans found'
    obtain ⟨other, entry⟩ := Finmap.mem_iff.mp taken
    obtain ⟨owner, there, named⟩ := booked.owner call.id other entry
    have own : (gateway.calls.map Call.id)[index]? = some call.id := by
      rw [List.getElem?_map, found, Option.map_some]
    have same : (gateway.calls.map Call.id)[other]? = some call.id := by
      rw [List.getElem?_map, there, Option.map_some, named]
    cases index_unique apart own same
    cases (step_cases entered).2 with
    | subscribed here => exact ((booked.listed index call found).mp entry).1 here

structure Keyed (ids : List String) (gateway : Gateway engine) : Prop where
  booked : gateway.BooksKept
  listed : (gateway.calls.map Call.id).Sublist ids

theorem keyed_run {labels : List GatewayAction} (keyed : Keyed ids gateway)
    (apart : (ids ++ idTexts (labels.filterMap subscribeDraw)).Nodup)
    (ran : (gatewayMachine engine wiring).run (fun _ _ => True) gateway labels = some after) :
    Keyed (ids ++ idTexts (labels.filterMap subscribeDraw)) after := by
  induction labels generalizing ids gateway with
  | nil =>
    cases ran
    exact (List.append_nil ids).symm ▸ keyed
  | cons label rest ih =>
    obtain ⟨next, -, stepped, later⟩ := Machine.run_cons ran
    rw [idTexts_filterMap_cons, ← List.append_assoc] at apart ⊢
    have different : (gateway.calls.map Call.id).Nodup :=
      apart.sublist (keyed.listed.trans ((List.sublist_append_left _ _).trans (List.sublist_append_left _ _)))
    refine ih ⟨?_, ?_⟩ apart later
    · exact booksKept_move keyed.booked (freshIDs_of_nodup keyed.booked different stepped) (gatewayStep_cases stepped).2
    · exact (ids_step stepped).trans (keyed.listed.append (.refl _))

end Gateway

theorem subscriptionsKept_of_separates {readings : Nat → Time} (separates : Separates readings) :
    SubscriptionsKept readings := by
  intro engine wiring labels gateway ran drawn index stepped
  have apart := idTexts_nodup separates drawn
  have initially : Keyed [] (Gateway.initial : Gateway engine) :=
    ⟨.empty (fun _ => List.not_mem_nil), .slnil⟩
  have keyed := keyed_run initially apart ran
  obtain ⟨after, stepped⟩ := Option.isSome_iff_exists.mp stepped
  exact freshIDs_of_nodup keyed.booked (apart.sublist keyed.listed) stepped

end Subscriptions

def groupedRequest : Consumers.RegisterConsumerRequest := ⟨"billing", "default", none, none⟩

theorem groupedRequest_registers (clock : Consumers.Readings) (consumers : Consumers.Repository .none) :
    ∃ after, Consumers.register groupedRequest clock consumers = (.ok (idText clock.first clock.second), after) ∧
      idText clock.first clock.second ∈ after := by
  have filtered : ∃ filter, groupedRequest.buildFilter .none = .ok filter := ⟨_, rfl⟩
  obtain ⟨filter, filtered⟩ := filtered
  have transformed : groupedRequest.buildTransformation = .ok ⟨.none, ""⟩ := rfl
  obtain ⟨consumer, built, -⟩ :=
    Consumers.activeConsumer_ok (by decide) (by decide) filtered transformed rfl clock
  have named := (Consumers.activeConsumer_fields built).1
  refine ⟨_, Consumers.register_ok.mpr ⟨consumer, built, named, rfl⟩, ?_⟩
  exact Finmap.mem_insert.mpr (.inl rfl)

theorem not_consumersKept {readings : Nat → Time} {place later : Nat} (apart : place + 2 ≤ later)
    (first : readings place = readings later)
    (second : (readings (place + 1)).tmod 1000 = (readings (later + 1)).tmod 1000) : ¬ConsumersKept readings := by
  intro kept
  let clock : Consumers.Readings := ⟨readings place, readings (place + 1), 0, 0⟩
  let clock' : Consumers.Readings := ⟨readings later, readings (later + 1), 0, 0⟩
  have same : idText clock'.first clock'.second = idText clock.first clock.second :=
    (idText_eq_iff _ _ _ _).mpr ⟨first.symm, second.symm⟩
  obtain ⟨middle, ran, taken⟩ := groupedRequest_registers clock ∅
  obtain ⟨after, ran', -⟩ := groupedRequest_registers clock' middle
  have served : [ConsumerCall.register groupedRequest clock].foldl serveConsumer (∅ : Consumers.Repository .none) =
      middle := by
    simp only [List.foldl_cons, List.foldl_nil, serveConsumer, ran]
  have drawn : Drawn readings (([ConsumerCall.register groupedRequest clock] ++
      [ConsumerCall.register groupedRequest clock']).filterMap ConsumerCall.draw) :=
    ⟨[place, later], by simp [apart], rfl⟩
  have free := kept .none _ groupedRequest clock' drawn _ after (served.symm ▸ ran')
  rw [served, same] at free
  exact free taken

/-- The generated IDs identify what they name exactly if no two calls of `generateID` find the same readings, the
second one modulo 1000. -/
theorem ids_identify_iff (readings : Nat → Time) :
    Ingest.EventsIdentified readings ∧ ConsumersKept readings ∧ SchemasKept readings ∧ SubscriptionsKept readings ↔
      Separates readings := by
  constructor
  · rintro ⟨-, consumers, -, -⟩ place later apart first second
    exact not_consumersKept apart first second consumers
  · intro separates
    exact ⟨Ingest.eventsIdentified_of_separates separates, consumersKept_of_separates separates,
      schemasKept_of_separates separates, subscriptionsKept_of_separates separates⟩

theorem ids_identify_ticking : let readings : Nat → Time := fun place => place
    Ingest.EventsIdentified readings ∧ ConsumersKept readings ∧ SchemasKept readings ∧ SubscriptionsKept readings :=
  (ids_identify_iff _).mpr (separates_of_strictMono (fun _ _ before => Int.ofNat_lt.mpr before))

def standingClock : Ingest.Surroundings Nat where
  now taken := (5, taken + 1)
  publish _ _ := pure ()
  validate _ _ := pure ()

def standing (_ : Nat) : Time := 5

def standingClock_clocked : Ingest.Clocked standingClock standing where
  taken := id
  now_reads _ := rfl
  now_taken _ := rfl
  publish_taken _ _ _ := le_rfl
  validate_taken _ _ _ := le_rfl

def twoRequests : List Ingest.IngestEventRequest :=
  [Ingest.sampleRequest "a", { Ingest.sampleRequest "a" with subject := "/orders/2" }]

/-- While the clock stands still, both events of a batch get one ID, and `Get` only ever returns the first. Two
consumers, two schemas or two subscriptions replace one another. -/
theorem ids_collide :
    let run := standingClock.ports.ingestEventBatch twoRequests (.newInMemoryEventStore 86400000000000 0, 0)
    (Monotone standing ∧ ∀ request ∈ twoRequests, request.Valid) ∧ run.1 = .ok ["5-5", "5-5"] ∧
    (run.2.1.get "5-5").toOption.map Event.subject = some "/orders/1" ∧
    ¬Ingest.EventsIdentified standing ∧ ¬ConsumersKept standing ∧ ¬SchemasKept standing ∧
    ¬SubscriptionsKept standing := by
  refine ⟨⟨monotone_const, by decide⟩, by decide, by decide, ?_, ?_, ?_, ?_⟩
  · intro identified
    have apart := (identified Nat standingClock standingClock_clocked 86400000000000 0 0 [.batch twoRequests]).1
    exact absurd apart (by decide)
  · exact not_consumersKept (le_refl 2) rfl rfl
  · intro kept
    let labels : List Registry.Action := [.register Registry.ordersRequest 5 5 5, .check 0, .save 0,
      .register { Registry.ordersRequest with version := "2" } 5 5 5, .check 1]
    have taken : (Registry.machine.run (fun _ _ => True) .initial labels).map
        (fun state => decide (Registry.FreshIDs state (.save 1))) = some false := by decide +kernel
    obtain ⟨state, ran, taken⟩ := Option.map_eq_some_iff.mp taken
    exact of_decide_eq_false taken (kept labels state ran ⟨[0, 2], by decide, rfl⟩ 1)
  · intro kept
    let labels : List Subscription.GatewayAction :=
      [.subscribe (some ⟨none⟩) 5 5, .register 0, .subscribe (some ⟨none⟩) 5 5]
    have taken : ((Subscription.gatewayMachine .none Subscription.runWiring).run (fun _ _ => True) .initial labels).map
        (fun gateway => decide ((gateway.step Subscription.runWiring (.register 1)).isSome ∧
          ¬Subscription.FreshIDs gateway (.register 1))) = some true := by decide +kernel
    obtain ⟨gateway, ran, taken⟩ := Option.map_eq_some_iff.mp taken
    obtain ⟨stepped, taken⟩ := of_decide_eq_true taken
    exact taken (kept .none _ labels gateway ran ⟨[0, 2], by decide, rfl⟩ 1 stepped)

end EventGateway.System
