import EventGateway.Domain.Consumer
import EventGateway.Domain.FilterEdits
import EventGateway.Lib.Machine

/-! The methods of a consumer that change it in place, in any order. A method gives its error and what
the receiver is afterwards, so that a refused call could in principle leave a trace. -/

namespace EventGateway
open Lib
variable {engine : RegexpEngine}

namespace Consumer

/-- What `Activate`, `Deactivate` and `UpdateFilter` have in common: a draining consumer refuses. -/
def unlessDraining (consumer : Consumer engine) (refusal : String) (changed : Consumer engine) :
    Except String Unit × Consumer engine :=
  if consumer.status = .draining then (.error refusal, consumer) else (.ok (), changed)

/-- `Activate` on the receiver itself; `activate` has the same outcome as a value. -/
def activateInPlace (consumer : Consumer engine) (now : Time) : Except String Unit × Consumer engine :=
  consumer.unlessDraining "cannot activate a draining consumer"
    { consumer with status := .active, updatedAt := now }

def deactivate (consumer : Consumer engine) (now : Time) : Except String Unit × Consumer engine :=
  consumer.unlessDraining "cannot deactivate a draining consumer"
    { consumer with status := .inactive, updatedAt := now }

def drain (consumer : Consumer engine) (now : Time) : Consumer engine :=
  { consumer with status := .draining, updatedAt := now }

def updateFilter (consumer : Consumer engine) (filter : EventFilter engine) (now : Time) :
    Except String Unit × Consumer engine :=
  consumer.unlessDraining "cannot update filter on a draining consumer"
    { consumer with filter, updatedAt := now }

theorem activateInPlace_eq (consumer : Consumer engine) (now : Time) :
    consumer.activateInPlace now =
      match consumer.activate now with
      | .error err => (.error err, consumer)
      | .ok changed => (.ok (), changed) := by
  unfold activateInPlace unlessDraining activate
  split
  next => rfl
  next => rfl

end Consumer

inductive ConsumerCall (engine : RegexpEngine) where
  | activate
  | deactivate
  | drain
  | updateFilter (filter : EventFilter engine)

def Consumer.perform (consumer : Consumer engine) (now : Time) :
    ConsumerCall engine → Except String Unit × Consumer engine
  | .activate => consumer.activateInPlace now
  | .deactivate => consumer.deactivate now
  | .drain => (.ok (), consumer.drain now)
  | .updateFilter filter => consumer.updateFilter filter now

structure ConsumerLife (engine : RegexpEngine) where
  consumer : Consumer engine
  clock : Time

def ConsumerLife.step (life : ConsumerLife engine) (label : ConsumerCall engine × Time) :
    Option (ConsumerLife engine) :=
  if life.clock ≤ label.2 then some ⟨(life.consumer.perform label.2 label.1).2, label.2⟩ else none

def consumerMachine (start : ConsumerLife engine) : Machine (ConsumerLife engine) (ConsumerCall engine × Time) where
  init := (· = start)
  step := ConsumerLife.step

/-- What a call can do: it is refused, it drains, or it sets the status and the filter of a consumer that
is not draining. -/
inductive Performed (before : Consumer engine) (now : Time) :
    ConsumerCall engine → Except String Unit × Consumer engine → Prop where
  | refused (call : ConsumerCall engine) (err : String) (draining : before.status = .draining)
      (other : call ≠ .drain) : Performed before now call (.error err, before)
  | drained : Performed before now .drain (.ok (), { before with status := .draining, updatedAt := now })
  | changed (call : ConsumerCall engine) (status : ConsumerStatus) (filter : EventFilter engine)
      (live : before.status ≠ .draining) (other : call ≠ .drain) :
      Performed before now call (.ok (), { before with status, filter, updatedAt := now })

namespace Consumer

theorem perform_cases (consumer : Consumer engine) (now : Time) (call : ConsumerCall engine) :
    Performed consumer now call (consumer.perform now call) := by
  have guarded (call : ConsumerCall engine) (refusal : String) (status : ConsumerStatus)
      (filter : EventFilter engine) (other : call ≠ .drain) : Performed consumer now call
        (consumer.unlessDraining refusal { consumer with status, filter, updatedAt := now }) := by
    unfold unlessDraining
    split
    next draining => exact .refused call refusal draining other
    next live => exact .changed call status filter live other
  cases call with
  | activate => exact guarded .activate _ .active consumer.filter nofun
  | deactivate => exact guarded .deactivate _ .inactive consumer.filter nofun
  | drain => exact .drained
  | updateFilter filter => exact guarded (.updateFilter filter) _ consumer.status filter nofun

structure SameIdentity (first second : Consumer engine) : Prop where
  id : second.id = first.id
  name : second.name = first.name
  groupID : second.groupID = first.groupID
  transformation : second.transformation = first.transformation
  createdAt : second.createdAt = first.createdAt

theorem SameIdentity.perform {first second : Consumer engine} (same : SameIdentity first second) {now : Time}
    {call : ConsumerCall engine} {outcome : Except String Unit × Consumer engine}
    (performed : Performed second now call outcome) : SameIdentity first outcome.2 := by
  cases performed with
  | refused => exact same
  | drained => exact ⟨same.id, same.name, same.groupID, same.transformation, same.createdAt⟩
  | changed => exact ⟨same.id, same.name, same.groupID, same.transformation, same.createdAt⟩

structure Dated (consumer : Consumer engine) (clock : Time) : Prop where
  created : consumer.createdAt ≤ consumer.updatedAt
  updated : consumer.updatedAt ≤ clock

section Step
variable {consumer : Consumer engine} {clock now : Time} {call : ConsumerCall engine}
  {outcome : Except String Unit × Consumer engine}

theorem Dated.updatedAt_le (dated : Dated consumer clock) (later : clock ≤ now)
    (performed : Performed consumer now call outcome) : consumer.updatedAt ≤ outcome.2.updatedAt := by
  cases performed with
  | refused => exact le_rfl
  | drained => exact dated.updated.trans later
  | changed => exact dated.updated.trans later

theorem Dated.perform (dated : Dated consumer clock) (later : clock ≤ now)
    (performed : Performed consumer now call outcome) : Dated outcome.2 now := by
  have order : consumer.createdAt ≤ now := dated.created.trans (dated.updated.trans later)
  cases performed with
  | refused => exact ⟨dated.created, dated.updated.trans later⟩
  | drained => exact ⟨order, le_rfl⟩
  | changed => exact ⟨order, le_rfl⟩

theorem draining_perform (draining : consumer.status = .draining)
    (performed : Performed consumer now call outcome) :
    outcome.2.status = .draining ∧ outcome.2.filter = consumer.filter := by
  cases performed with
  | refused => exact ⟨draining, rfl⟩
  | drained => exact ⟨rfl, rfl⟩
  | changed _ _ _ live => exact absurd draining live

theorem unchanged_of_error {err : String} (performed : Performed consumer now call outcome)
    (failed : outcome.1 = .error err) : outcome.2 = consumer := by
  cases performed with
  | refused => rfl
  | drained => cases failed
  | changed => cases failed

end Step

theorem dated_new {id name groupID : String} {filter : EventFilter engine} {transformation : Transformation}
    {now : Time} {start : Consumer engine}
    (built : newConsumer id name groupID filter transformation now = .ok start) : Dated start now := by
  unfold newConsumer at built
  split at built
  next => cases built
  next =>
    cases built
    exact ⟨le_rfl, le_rfl⟩

theorem transformation_valid (consumer : Consumer engine) : consumer.transformation.validate = .ok () :=
  (validateConsumerFields_ok.mp consumer.valid).2.2.2

end Consumer

theorem ConsumerLife.step_cases {life after : ConsumerLife engine} {label : ConsumerCall engine × Time}
    (stepped : life.step label = some after) :
    life.clock ≤ label.2 ∧ after = ⟨(life.consumer.perform label.2 label.1).2, label.2⟩ := by
  unfold ConsumerLife.step at stepped
  split at stepped
  next later => exact ⟨later, (Option.some.inj stepped).symm⟩
  next => cases stepped

theorem lived_of_reachable {start life : ConsumerLife engine} (dated : start.consumer.Dated start.clock)
    (reached : (consumerMachine start).Reachable life) :
    start.consumer.SameIdentity life.consumer ∧ life.consumer.Dated life.clock := by
  apply reached.invariant (fun life => start.consumer.SameIdentity life.consumer ∧ life.consumer.Dated life.clock)
  · rintro life rfl
    exact ⟨⟨rfl, rfl, rfl, rfl, rfl⟩, dated⟩
  · intro life label after _ ⟨same, dated⟩ _ stepped
    obtain ⟨later, rfl⟩ := ConsumerLife.step_cases stepped
    have performed := life.consumer.perform_cases label.2 label.1
    exact ⟨same.perform performed, dated.perform later performed⟩

theorem draining_of_reachable (start : ConsumerLife engine) {life : ConsumerLife engine}
    (draining : start.consumer.status = .draining) (reached : (consumerMachine start).Reachable life) :
    life.consumer.status = .draining ∧ life.consumer.filter = start.consumer.filter := by
  apply reached.invariant (fun life => life.consumer.status = .draining ∧ life.consumer.filter = start.consumer.filter)
  · rintro life rfl
    exact ⟨draining, rfl⟩
  · intro life label after _ ⟨draining, kept⟩ _ stepped
    obtain ⟨-, rfl⟩ := ConsumerLife.step_cases stepped
    have same := Consumer.draining_perform draining (life.consumer.perform_cases label.2 label.1)
    exact ⟨same.1, same.2.trans kept⟩

/-- From `NewConsumer` on, along every sequence of calls: the identity is kept and the dates are in order, an error
changes nothing, and from a `Drain` on the consumer is draining with the filter that the `Drain` found. -/
theorem draining_final {id name groupID : String} {filter : EventFilter engine} {transformation : Transformation}
    {now : Time} {start : Consumer engine}
    (built : Consumer.newConsumer id name groupID filter transformation now = .ok start)
    {life : ConsumerLife engine} (reached : (consumerMachine ⟨start, now⟩).Reachable life) :
    start.SameIdentity life.consumer ∧ life.consumer.transformation.validate = .ok () ∧
      life.consumer.createdAt ≤ life.consumer.updatedAt ∧
      ∀ call time after, life.step (call, time) = some after →
        life.consumer.updatedAt ≤ after.consumer.updatedAt ∧
        (∀ err, (life.consumer.perform time call).1 = .error err → after.consumer = life.consumer) ∧
        (call = .drain → ∀ later, (consumerMachine after).Reachable later →
          later.consumer.status = .draining ∧ later.consumer.filter = life.consumer.filter) := by
  obtain ⟨same, dated⟩ := lived_of_reachable (Consumer.dated_new built) reached
  refine ⟨same, life.consumer.transformation_valid, dated.created, fun call time after stepped => ?_⟩
  obtain ⟨later, rfl⟩ := ConsumerLife.step_cases stepped
  have performed := life.consumer.perform_cases time call
  refine ⟨dated.updatedAt_le later performed, fun err failed => Consumer.unchanged_of_error performed failed, ?_⟩
  rintro rfl last continued
  exact draining_of_reachable ⟨life.consumer.drain time, time⟩ rfl continued

theorem draining_final_refused : ∃ (start : Consumer .none) (drained last : ConsumerLife .none),
    Consumer.newConsumer "consumer-1" "orders" "billing" (.matchAll .none) ⟨.none, ""⟩ 0 = .ok start ∧
      ConsumerLife.step ⟨start, 0⟩ (.drain, 1) = some drained ∧
      drained.step (.updateFilter ((EventFilter.matchAll .none).addMetadataFilter "tenant" "a"), 2) = some last ∧
      last.consumer.filter = .matchAll .none := by
  obtain ⟨start, built, -, -, same, -⟩ := @Consumer.newConsumer_ok .none "consumer-1" "orders" "billing"
    (by decide) (by decide) (by decide) ⟨.none, ""⟩ rfl (.matchAll .none) 0
  let narrow := (EventFilter.matchAll .none).addMetadataFilter "tenant" "a"
  let drained : ConsumerLife .none := ⟨start.drain 1, 1⟩
  let last : ConsumerLife .none := ⟨(drained.consumer.updateFilter narrow 2).2, 2⟩
  have stepped : ConsumerLife.step ⟨start, 0⟩ (.drain, 1) = some drained := rfl
  have refused : (consumerMachine drained).step drained (.updateFilter narrow, 2) = some last := rfl
  obtain ⟨-, -, -, step⟩ := draining_final built (.start rfl)
  obtain ⟨-, -, final⟩ := step .drain 1 drained stepped
  have kept := (final rfl last (.next (.start rfl) trivial refused)).2
  exact ⟨start, drained, last, built, stepped, refused, kept.trans same⟩

end EventGateway
