import EventGateway.Journey.Calls

/-! An ingestion call that nothing interrupts is the call of the event service on the store and the producer of the
gateway. -/

namespace EventGateway.Journey
open Lib Ingest Kafka

section Publishing
variable {σ : Type} (kp : Producer) (setting : Setting σ)

theorem see_spec {α : Type} (action : σ → α × σ) : Risky.Spec (Trial.see action).alone (fun _ => True) False :=
  fun _ => trivial

theorem retryFrom_spec (failure : String) (messages : List KafkaMessage) (left attempt : Nat) (lastErr : String) :
    Risky.Spec (kp.retryFrom setting failure messages left attempt lastErr).alone (fun _ => True) False := by
  induction left generalizing attempt lastErr with
  | zero =>
    rw [Producer.retryFrom, Trial.alone_bind]
    exact (see_spec _).bind (fun _ _ _ => trivial)
  | succ left ih =>
    have waits : Risky.Spec (Producer.wait setting attempt).alone (fun _ => True) False := by
      unfold Producer.wait
      split
      next => exact see_spec _
      next => exact fun _ => trivial
    rw [Producer.retryFrom, Trial.alone_bind]
    apply waits.bind
    rintro (- | err) -
    · rw [Trial.alone_bind]
      apply (see_spec _).bind
      rintro (err | value) -
      · exact ih (attempt + 1) err
      · exact see_spec _
    · exact fun _ => trivial

theorem publish_spec {serialize : Event → Except String Bytes} (set : kp.serializer = some serialize) (event : Event) :
    Risky.Spec (kp.publish setting (some event)).alone (fun _ => True) False := by
  rw [Producer.publish, Trial.alone_bind]
  refine (see_spec _).bind (fun circuitOpen _ => ?_)
  split
  next => exact fun _ => trivial
  simp only [set]
  split
  next =>
    rw [Trial.alone_bind]
    exact (see_spec _).bind (fun _ _ _ => trivial)
  next => exact retryFrom_spec kp setting _ _ _ 0 ""

end Publishing

section Serving
variable {ω : Type} {engine : RegexpEngine} (world : World ω)

def ports : Ports (Relay ω engine) where
  now := readClock world
  store := storeEvent world
  publish event _topic relay :=
    match (publish world event).alone relay with
    | (.returned result, after) => (result, after)
    | (.panicked, after) => (.error "", after)
  validate schemaURL data := outside (world.validate schemaURL data)

theorem publish_performs (event : Event) (topic : String) :
    (publish world event : Trial (Relay ω engine) Unit).Performs ((ports world).publish event topic) := by
  funext relay
  have returns := publish_spec (world.producer .new) (setting world) rfl event relay
  simp only [Risky.calling, ports, publish]
  rcases ran : ((world.producer .new).publish (setting world) (some event)).alone relay with ⟨⟨result⟩ | -, after⟩
  · rfl
  · rw [ran] at returns
    exact returns.elim

theorem generateID_performs : (generateID world : Trial (Relay ω engine) String).Performs (ports world).generateID := by
  apply (Trial.Performs.call _).bind
  intro first
  apply (Trial.Performs.call _).bind
  intro second
  exact .pure _

theorem correlationOr_performs (correlationID : String) :
    (correlationOr world correlationID : Trial (Relay ω engine) String).Performs
      ((ports world).correlationOr correlationID) := by
  unfold correlationOr Ports.correlationOr
  split
  next => exact generateID_performs world
  next => exact .pure _

theorem validateAndEnrichEvent_performs (request : IngestEventRequest) (eventID correlationID : String) :
    (validateAndEnrichEvent world request eventID correlationID : Trial (Relay ω engine) Event).Performs
      ((ports world).validateAndEnrichEvent request eventID correlationID) := by
  apply (Trial.Performs.call _).bind
  intro timestamp
  apply (Trial.Performs.call _).bind
  intro createdAt
  cases request.toEntity eventID timestamp createdAt with
  | error err => exact .fail _
  | ok event =>
    dsimp only
    split
    next =>
      apply ((Trial.Performs.call _).wrap _).bind
      intro _
      exact .pure _
    next => exact .pure _

/-- `IngestEvent` that nothing interrupts is the call of the service on these collaborators. -/
theorem ingestEvent_performs (request : IngestEventRequest) :
    (ingestEvent world request : Trial (Relay ω engine) String).Performs ((ports world).ingestEvent request) := by
  apply (generateID_performs world).bind
  intro eventID
  apply (correlationOr_performs world _).bind
  intro correlationID
  apply (validateAndEnrichEvent_performs world request eventID correlationID).bind
  intro event
  apply Trial.Performs.bind
  · apply ((Trial.Performs.call _).wrap _).bind
    intro _
    apply ((publish_performs world event _).wrap _).bind
    intro _
    exact .pure event
  · intro _
    exact .pure _

theorem preparePointer_alone (correlationID : String) (index : Nat) (pointer : Option IngestEventRequest) :
    (preparePointer world correlationID index pointer : Trial (Relay ω engine) _).alone =
      (ports world).preparePointer correlationID index pointer := by
  cases pointer with
  | none =>
    refine (Trial.alone_bind _ _).trans ?_
    rw [generateID_performs]
    rfl
  | some request =>
    apply (generateID_performs world).bind
    intro eventID
    apply ((validateAndEnrichEvent_performs world request eventID correlationID).wrap _).bind
    intro event
    exact .pure _

theorem preparePointersFrom_alone (correlationID : String) (start : Nat) (pointers : List (Option IngestEventRequest)) :
    (Trial.collectFrom (preparePointer world correlationID) start pointers : Trial (Relay ω engine) _).alone =
      (ports world).preparePointersFrom correlationID start pointers := by
  induction pointers generalizing start with
  | nil => rfl
  | cons pointer rest ih =>
    simp only [Trial.collectFrom, Trial.alone_bind, preparePointer_alone, ih, Ports.preparePointersFrom]
    rfl

theorem finishBatch_performs (prepared : List (Event × String)) :
    (finishBatch world prepared : Trial (Relay ω engine) _).Performs ((ports world).finishBatch prepared) := by
  apply (Trial.Performs.eachFrom (fun _ event => (Trial.Performs.call _).wrap _) 0 _).bind
  intro _
  apply (Trial.Performs.eachFrom (fun _ event => (publish_performs world event _).wrap _) 0 _).bind
  intro _
  exact .pure _

theorem ingestPointers_alone (pointers : List (Option IngestEventRequest)) :
    (ingestPointers world pointers : Trial (Relay ω engine) _).alone = (ports world).ingestPointers pointers := by
  cases pointers with
  | nil => rfl
  | cons pointer rest =>
    cases pointer with
    | none => rfl
    | some first =>
      refine (Trial.alone_bind _ _).trans ?_
      rw [correlationOr_performs]
      apply congrArg (Risky.calling _ >>= ·)
      funext correlationID
      refine (Trial.alone_bind _ _).trans ?_
      rw [preparePointersFrom_alone]
      exact congrArg (_ >>= ·) (funext (finishBatch_performs world))

end Serving
end EventGateway.Journey
