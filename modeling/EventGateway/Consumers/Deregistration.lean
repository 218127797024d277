import EventGateway.Consumers.Registration
import EventGateway.Lib.Calls
import EventGateway.Lib.FiniteMap
import EventGateway.Lib.Machine

/-! Concurrent calls of `Deregister`. The repository locks `Get` and `Delete` each for
itself, so between the two steps of one call others may take theirs, and a `Delete` that
finds nothing to remove is no error. -/

namespace EventGateway.Consumers
open Lib Lib.Calls

structure ConsumerDeregistered where
  consumerID : String
  groupID : String
  aggregateID : String
  deriving DecidableEq

def newConsumerDeregistered {engine : RegexpEngine} (consumer : Consumer engine) : ConsumerDeregistered :=
  ⟨consumer.id, consumer.groupID, consumer.id⟩

/-- What a call of `Deregister` does next, or what it returned. -/
inductive Stage (engine : RegexpEngine) where
  | retrieving
  | deleting (consumer : Consumer engine)
  | emitting (consumer : Consumer engine)
  | returned (result : Except String Unit)

structure DeregisterCall (engine : RegexpEngine) where
  consumerID : String
  stage : Stage engine
  emitted : List ConsumerDeregistered

structure ConsumerService (engine : RegexpEngine) where
  consumers : Repository engine
  calls : List (DeregisterCall engine)

inductive ServiceStep where
  | register (request : RegisterConsumerRequest) (clock : Readings)
  | deregister (consumerID : String)
  | retrieve (index : Nat)
  | delete (index : Nat)
  | emit (index : Nat)

namespace Stage
variable {engine : RegexpEngine}

def afterGet : Except String (Consumer engine) → Stage engine
  | .error err => .returned (.error ("consumer not found: " ++ err))
  | .ok consumer => .deleting consumer

def found : Stage engine → Bool
  | .deleting _ | .emitting _ | .returned (.ok ()) => true
  | .retrieving | .returned (.error _) => false

def removed : Stage engine → Bool
  | .emitting _ | .returned (.ok ()) => true
  | .retrieving | .deleting _ | .returned (.error _) => false

def between : Stage engine → Bool
  | .deleting _ => true
  | .retrieving | .emitting _ | .returned _ => false

end Stage

namespace ConsumerService
variable {engine : RegexpEngine}

def move (service : ConsumerService engine) (index : Nat) (call : DeregisterCall engine) : ConsumerService engine :=
  { service with calls := service.calls.set index call }

def step (service : ConsumerService engine) : ServiceStep → Option (ConsumerService engine)
  | .register request clock => some { service with consumers := (register request clock service.consumers).2 }
  | .deregister consumerID => some { service with calls := service.calls ++ [⟨consumerID, .retrieving, []⟩] }
  | .retrieve index =>
      match service.calls[index]? with
      | some ⟨consumerID, .retrieving, emitted⟩ =>
          some (service.move index ⟨consumerID, .afterGet (service.consumers.get consumerID), emitted⟩)
      | _ => none
  | .delete index =>
      match service.calls[index]? with
      | some ⟨consumerID, .deleting consumer, emitted⟩ =>
        match service.consumers.delete consumerID with
        | .error err => some (service.move index
            ⟨consumerID, .returned (.error ("failed to deregister consumer: " ++ err)), emitted⟩)
        | .ok consumers => some { service.move index ⟨consumerID, .emitting consumer, emitted⟩ with consumers }
      | _ => none
  | .emit index =>
      match service.calls[index]? with
      | some ⟨consumerID, .emitting consumer, emitted⟩ => some (service.move index
          ⟨consumerID, .returned (.ok ()), emitted ++ [newConsumerDeregistered consumer]⟩)
      | _ => none

end ConsumerService

/-- Calls of `Deregister` on any repository, with registrations among them. -/
def serviceMachine (engine : RegexpEngine) : Machine (ConsumerService engine) ServiceStep where
  init := fun service => service.calls = []
  step := ConsumerService.step

section Service
variable {engine : RegexpEngine} {service after : ConsumerService engine} {label : ServiceStep}
  {consumerID : String} {consumer : Consumer engine} {call : DeregisterCall engine}

inductive ServiceMove (service : ConsumerService engine) : ServiceStep → ConsumerService engine → Prop where
  | register (request : RegisterConsumerRequest) (clock : Readings) :
      ServiceMove service (.register request clock)
        { service with consumers := (register request clock service.consumers).2 }
  | deregister (consumerID : String) :
      ServiceMove service (.deregister consumerID)
        { service with calls := service.calls ++ [⟨consumerID, .retrieving, []⟩] }
  | refuse (index : Nat) (call : DeregisterCall engine) (there : service.calls[index]? = some call)
      (stage : call.stage = .retrieving) (absent : service.consumers.lookup call.consumerID = none) :
      ServiceMove service (.retrieve index)
        (service.move index { call with stage := .returned (.error "consumer not found: consumer not found") })
  | retrieve (index : Nat) (call : DeregisterCall engine) (consumer : Consumer engine)
      (there : service.calls[index]? = some call) (stage : call.stage = .retrieving)
      (present : service.consumers.lookup call.consumerID = some consumer) :
      ServiceMove service (.retrieve index) (service.move index { call with stage := .deleting consumer })
  | delete (index : Nat) (call : DeregisterCall engine) (consumer : Consumer engine)
      (there : service.calls[index]? = some call) (stage : call.stage = .deleting consumer) :
      ServiceMove service (.delete index) { service.move index { call with stage := .emitting consumer } with
        consumers := service.consumers.erase call.consumerID }
  | emit (index : Nat) (call : DeregisterCall engine) (consumer : Consumer engine)
      (there : service.calls[index]? = some call) (stage : call.stage = .emitting consumer) :
      ServiceMove service (.emit index) (service.move index
        ⟨call.consumerID, .returned (.ok ()), call.emitted ++ [newConsumerDeregistered consumer]⟩)

theorem ConsumerService.step_cases (stepped : service.step label = some after) : ServiceMove service label after := by
  cases label with
  | register request clock =>
    cases stepped
    exact .register request clock
  | deregister consumerID =>
    cases stepped
    exact .deregister consumerID
  | retrieve index =>
    simp only [ConsumerService.step] at stepped
    split at stepped
    next consumerID emitted there =>
      simp only [Repository.get] at stepped
      split at stepped
      next consumer present =>
        cases stepped
        exact .retrieve index _ consumer there rfl present
      next absent =>
        cases stepped
        exact .refuse index _ there rfl absent
    next => cases stepped
  | delete index =>
    simp only [ConsumerService.step] at stepped
    split at stepped
    next consumerID consumer emitted there =>
      cases stepped
      exact .delete index _ consumer there rfl
    next => cases stepped
  | emit index =>
    simp only [ConsumerService.step] at stepped
    split at stepped
    next consumerID consumer emitted there =>
      cases stepped
      exact .emit index _ consumer there rfl
    next => cases stepped

theorem deregister_uninterrupted (service : ConsumerService engine) (consumerID : String) :
    ∃ labels after emitted, (serviceMachine engine).run (fun _ _ => True) service labels = some after ∧
      after.consumers = (deregister consumerID service.consumers).2 ∧
      after.calls =
        service.calls ++ [⟨consumerID, .returned (deregister consumerID service.consumers).1, emitted⟩] := by
  cases found : service.consumers.get consumerID with
  | error err =>
    refine ⟨[.deregister consumerID, .retrieve service.calls.length],
      ⟨service.consumers, service.calls ++ [⟨consumerID, .returned (.error ("consumer not found: " ++ err)), []⟩]⟩,
      [], ?_, ?_, ?_⟩
    · simp [Machine.run, serviceMachine, ConsumerService.step, ConsumerService.move, found, Stage.afterGet]
    · simp [deregister, found]
    · simp [deregister, found]
  | ok consumer =>
    refine ⟨[.deregister consumerID, .retrieve service.calls.length, .delete service.calls.length,
      .emit service.calls.length], ⟨service.consumers.erase consumerID,
        service.calls ++ [⟨consumerID, .returned (.ok ()), [newConsumerDeregistered consumer]⟩]⟩,
      [newConsumerDeregistered consumer], ?_, ?_, ?_⟩
    · simp [Machine.run, serviceMachine, ConsumerService.step, ConsumerService.move, found, Stage.afterGet,
        Repository.delete]
    · simp [deregister, found, Repository.delete]
    · simp [deregister, found, Repository.delete]

def Apart (consumerID : String) (_ : ConsumerService engine) : ServiceStep → Prop
  | .register _ clock => idText clock.first clock.second ≠ consumerID
  | _ => True

def Alone (consumerID : String) (service : ConsumerService engine) : ServiceStep → Prop
  | .retrieve index => ∀ call ∈ service.calls[index]?, call.consumerID = consumerID →
      ∀ other ∈ service.calls, other.consumerID = consumerID → other.stage.between = false
  | _ => True

instance (service : ConsumerService engine) (label : ServiceStep) : Decidable (Apart consumerID service label) :=
  match label with
  | .register _ _ => inferInstanceAs (Decidable (_ ≠ _))
  | .deregister _ | .retrieve _ | .delete _ | .emit _ => .isTrue trivial

instance (service : ConsumerService engine) (label : ServiceStep) : Decidable (Alone consumerID service label) :=
  match label with
  | .retrieve index =>
    match found : service.calls[index]? with
    | none => .isTrue (by simp [Alone, found])
    | some call => decidable_of_iff (call.consumerID = consumerID →
        ∀ other ∈ service.calls, other.consumerID = consumerID → other.stage.between = false) (by simp [Alone, found])
  | .register _ _ | .deregister _ | .delete _ | .emit _ => .isTrue trivial

def DeregisterCall.Succeeded (call : DeregisterCall engine) (consumer : Consumer engine) : Prop :=
  call.stage = .returned (.ok ()) ∧ call.emitted = [newConsumerDeregistered consumer]

def DeregisterCall.Refused (call : DeregisterCall engine) : Prop :=
  (∃ err, call.stage = .returned (.error err)) ∧ call.emitted = []

namespace ConsumerService

def Completed (service : ConsumerService engine) (consumerID : String) : Prop :=
  ∀ call ∈ service.calls, call.consumerID = consumerID → ∃ result, call.stage = .returned result

def DeregisteredOnce (service : ConsumerService engine) (consumerID : String) (consumer : Consumer engine) : Prop :=
  ∃ (index : Nat) (call : DeregisterCall engine), service.calls[index]? = some call ∧
    call.consumerID = consumerID ∧ call.Succeeded consumer ∧
    ∀ (other : Nat) (another : DeregisterCall engine), other ≠ index → service.calls[other]? = some another →
      another.consumerID = consumerID → another.Refused

def tally (service : ConsumerService engine) (consumerID : String) (counts : Stage engine → Bool) : Nat :=
  service.calls.countP (fun call => call.consumerID = consumerID && counts call.stage)

theorem tally_pos {counts : Stage engine → Bool} : 0 < service.tally consumerID counts ↔
    ∃ call ∈ service.calls, call.consumerID = consumerID ∧ counts call.stage = true := by
  simp only [tally, List.countP_pos_iff, Bool.and_eq_true, decide_eq_true_eq]

theorem tally_begin (counts : Stage engine → Bool) (idle : counts .retrieving = false) (other : String)
    (consumers : Repository engine) :
    ConsumerService.tally ⟨consumers, service.calls ++ [⟨other, .retrieving, []⟩]⟩ consumerID counts =
      service.tally consumerID counts := by
  simp [tally, List.countP_append, idle]

theorem tally_move (consumerID : String) (counts : Stage engine → Bool) {index : Nat}
    (there : service.calls[index]? = some call) (stage : Stage engine) (emitted : List ConsumerDeregistered)
    (consumers : Repository engine) :
    ConsumerService.tally ⟨consumers, service.calls.set index ⟨call.consumerID, stage, emitted⟩⟩ consumerID counts +
        (if call.consumerID = consumerID ∧ counts call.stage = true then 1 else 0) =
      service.tally consumerID counts + if call.consumerID = consumerID ∧ counts stage = true then 1 else 0 := by
  have moved := @countP_set_of_found _ _ _ _ ⟨call.consumerID, stage, emitted⟩
    (fun call : DeregisterCall engine => call.consumerID = consumerID && counts call.stage) there
  simpa only [tally, Bool.and_eq_true, decide_eq_true_eq] using moved

theorem tally_same (consumerID : String) (counts : Stage engine → Bool) {index : Nat}
    (there : service.calls[index]? = some call) (stage : Stage engine) (emitted : List ConsumerDeregistered)
    (consumers : Repository engine) (alike : counts stage = counts call.stage) :
    ConsumerService.tally ⟨consumers, service.calls.set index ⟨call.consumerID, stage, emitted⟩⟩ consumerID counts =
      service.tally consumerID counts := by
  have moved := tally_move consumerID counts there stage emitted consumers
  rw [alike] at moved
  exact Nat.add_right_cancel moved

theorem tally_succ (counts : Stage engine → Bool) {index : Nat} (there : service.calls[index]? = some call)
    (own : call.consumerID = consumerID) (stage : Stage engine) (emitted : List ConsumerDeregistered)
    (consumers : Repository engine) (before : counts call.stage = false) (now : counts stage = true) :
    ConsumerService.tally ⟨consumers, service.calls.set index ⟨call.consumerID, stage, emitted⟩⟩ consumerID counts =
      service.tally consumerID counts + 1 := by
  have moved := tally_move consumerID counts there stage emitted consumers
  simpa [own, before, now] using moved

end ConsumerService

def DeregisterCall.Consistent (call : DeregisterCall engine) (consumer : Consumer engine) : Prop :=
  match call.stage with
  | .retrieving | .returned (.error _) => call.emitted = []
  | .deleting held | .emitting held => held = consumer ∧ call.emitted = []
  | .returned (.ok ()) => call.emitted = [newConsumerDeregistered consumer]

/-- As long as the consumer is there no call for it has deleted it or been refused; once it
is gone, some call has deleted it. -/
structure Tracked (consumerID : String) (consumer : Consumer engine) (service : ConsumerService engine) : Prop where
  kept : ∀ held, service.consumers.lookup consumerID = some held → held = consumer
  pending : service.consumers.lookup consumerID ≠ none → ∀ call ∈ service.calls, call.consumerID = consumerID →
    call.stage = .retrieving ∨ call.stage.between = true
  gone : service.consumers.lookup consumerID = none → 0 < service.tally consumerID Stage.removed
  each : ∀ call ∈ service.calls, call.consumerID = consumerID → call.Consistent consumer

theorem lookup_register {request : RegisterConsumerRequest} {clock : Readings} {consumers : Repository engine}
    (apart : idText clock.first clock.second ≠ consumerID) :
    (register request clock consumers).2.lookup consumerID = consumers.lookup consumerID := by
  cases registered : register request clock consumers with
  | mk result after =>
    unfold register at registered
    split at registered
    next =>
      cases registered
      rfl
    next consumer built =>
      cases registered
      rw [(activeConsumer_fields built).1]
      exact Finmap.lookup_insert_of_ne _ apart.symm

namespace Tracked
variable {index : Nat} {stage : Stage engine} {emitted : List ConsumerDeregistered} {consumers : Repository engine}

theorem move (held : Tracked consumerID consumer service)
    (fewer : ∀ held, consumers.lookup consumerID = some held → service.consumers.lookup consumerID = some held)
    (pending : consumers.lookup consumerID ≠ none → call.consumerID = consumerID →
      stage = .retrieving ∨ stage.between = true)
    (gone : consumers.lookup consumerID = none → 0 < ConsumerService.tally
      ⟨consumers, service.calls.set index ⟨call.consumerID, stage, emitted⟩⟩ consumerID Stage.removed)
    (each : call.consumerID = consumerID → DeregisterCall.Consistent ⟨call.consumerID, stage, emitted⟩ consumer) :
    Tracked consumerID consumer ⟨consumers, service.calls.set index ⟨call.consumerID, stage, emitted⟩⟩ where
  kept := fun found there => held.kept found (fewer found there)
  pending := by
    intro present other member own
    rcases List.mem_or_eq_of_mem_set member with old | rfl
    · obtain ⟨found, known⟩ := Option.ne_none_iff_exists'.mp present
      exact held.pending (by simp [fewer found known]) other old own
    · exact pending present own
  gone := gone
  each := by
    intro other member own
    rcases List.mem_or_eq_of_mem_set member with old | rfl
    · exact held.each other old own
    · exact each own

theorem gone_move (held : Tracked consumerID consumer service) (there : service.calls[index]? = some call)
    (stays : call.stage.removed = true → stage.removed = true) (absent : service.consumers.lookup consumerID = none) :
    0 < ConsumerService.tally ⟨consumers, service.calls.set index ⟨call.consumerID, stage, emitted⟩⟩ consumerID
      Stage.removed := by
  have before := held.gone absent
  have moved := ConsumerService.tally_move consumerID Stage.removed there stage emitted consumers
  split at moved
  next left =>
    rw [if_pos ⟨left.1, stays left.2⟩] at moved
    omega
  next => omega

theorem begin (held : Tracked consumerID consumer service) (other : String) : Tracked consumerID consumer
    { service with calls := service.calls ++ [⟨other, .retrieving, []⟩] } where
  kept := held.kept
  pending := by
    intro present call member own
    rcases List.mem_append.mp member with old | new
    · exact held.pending present call old own
    · rw [List.mem_singleton.mp new]
      exact .inl rfl
  gone := fun absent => (ConsumerService.tally_begin Stage.removed rfl other _).symm ▸ held.gone absent
  each := by
    intro call member own
    rcases List.mem_append.mp member with old | new
    · exact held.each call old own
    · rw [List.mem_singleton.mp new]
      rfl

end Tracked

theorem tracked_step (held : Tracked consumerID consumer service) (apart : Apart consumerID service label)
    (stepped : service.step label = some after) : Tracked consumerID consumer after := by
  cases ConsumerService.step_cases stepped with
  | register request clock =>
    have same := @lookup_register _ consumerID request clock service.consumers apart
    exact ⟨same.symm ▸ held.kept, same.symm ▸ held.pending, same.symm ▸ held.gone, held.each⟩
  | deregister other => exact held.begin other
  | refuse index call there stage absent =>
    refine held.move (fun _ found => found) ?_ (held.gone_move there (by simp [stage, Stage.removed])) ?_
    · rintro present rfl
      exact absurd absent present
    · intro own
      have before := held.each call (List.mem_of_getElem? there) own
      simpa only [DeregisterCall.Consistent, stage] using before
  | retrieve index call found there stage present =>
    refine held.move (fun _ found => found) (fun _ _ => .inr rfl)
      (held.gone_move there (by simp [stage, Stage.removed])) ?_
    rintro rfl
    have before := held.each call (List.mem_of_getElem? there) rfl
    simp only [DeregisterCall.Consistent, stage] at before
    exact ⟨held.kept found present, before⟩
  | delete index call found there stage =>
    have erased := FiniteMap.lookup_erase service.consumers call.consumerID consumerID
    refine held.move ?_ ?_ ?_ ?_
    · intro kept known
      rw [erased] at known
      split at known
      next => cases known
      next => exact known
    · rintro present rfl
      rw [erased, if_pos rfl] at present
      exact absurd rfl present
    · intro absent
      by_cases own : consumerID = call.consumerID
      · have more := ConsumerService.tally_succ Stage.removed there own.symm (.emitting found) call.emitted
          (service.consumers.erase call.consumerID) (by simp [stage, Stage.removed]) rfl
        exact more ▸ Nat.succ_pos _
      · rw [erased, if_neg own] at absent
        exact held.gone_move there (by simp [stage, Stage.removed]) absent
    · intro own
      have before := held.each call (List.mem_of_getElem? there) own
      simpa only [DeregisterCall.Consistent, stage] using before
  | emit index call found there stage =>
    refine held.move (fun _ found => found) ?_ (held.gone_move there (by simp [Stage.removed])) ?_
    · intro present own
      have before := held.pending present call (List.mem_of_getElem? there) own
      simp [stage, Stage.between] at before
    · intro own
      have before := held.each call (List.mem_of_getElem? there) own
      simp only [DeregisterCall.Consistent, stage] at before ⊢
      rw [before.1, before.2, List.nil_append]

theorem found_step (consumerID : String) (stepped : service.step label = some after) :
    after.tally consumerID Stage.found = service.tally consumerID Stage.found ∨
      ∃ index call, label = .retrieve index ∧ service.calls[index]? = some call ∧ call.consumerID = consumerID ∧
        service.consumers.lookup consumerID ≠ none ∧
        after.tally consumerID Stage.found = service.tally consumerID Stage.found + 1 := by
  cases ConsumerService.step_cases stepped with
  | register => exact .inl rfl
  | deregister other => exact .inl (ConsumerService.tally_begin Stage.found rfl other _)
  | refuse index call there stage =>
    left
    exact ConsumerService.tally_same consumerID Stage.found there _ _ _ (by simp [stage, Stage.found])
  | retrieve index call found there stage present =>
    by_cases own : call.consumerID = consumerID
    · have more := ConsumerService.tally_succ Stage.found there own (.deleting found) call.emitted service.consumers
        (by simp [stage, Stage.found]) rfl
      exact .inr ⟨index, call, rfl, there, own, own ▸ Option.ne_none_iff_exists'.mpr ⟨found, present⟩, more⟩
    · have moved := ConsumerService.tally_move consumerID Stage.found there (.deleting found) call.emitted
        service.consumers
      rw [if_neg (fun counted => own counted.1), if_neg (fun counted => own counted.1)] at moved
      exact .inl moved
  | delete index call found there stage =>
    left
    exact ConsumerService.tally_same consumerID Stage.found there _ _ _ (by simp [stage, Stage.found])
  | emit index call found there stage =>
    left
    exact ConsumerService.tally_same consumerID Stage.found there _ _ _ (by simp [stage, Stage.found])

theorem found_le_step (stepped : service.step label = some after) :
    service.tally consumerID Stage.found ≤ after.tally consumerID Stage.found := by
  rcases found_step consumerID stepped with same | ⟨_, _, _, _, _, _, more⟩
  · exact same.ge
  · omega

theorem found_le_run {labels : List ServiceStep} {admits : ConsumerService engine → ServiceStep → Prop}
    [∀ service label, Decidable (admits service label)]
    (ran : (serviceMachine engine).run admits service labels = some after) :
    service.tally consumerID Stage.found ≤ after.tally consumerID Stage.found := by
  induction labels generalizing service with
  | nil => exact (Option.some.inj ran ▸ le_refl _)
  | cons label rest ih =>
    obtain ⟨next, -, stepped, later⟩ := Machine.run_cons ran
    exact (found_le_step stepped).trans (ih later)

theorem found_eq (service : ConsumerService engine) (consumerID : String) :
    service.tally consumerID Stage.found =
      service.tally consumerID Stage.between + service.tally consumerID Stage.removed := by
  unfold ConsumerService.tally
  induction service.calls with
  | nil => rfl
  | cons call rest ih =>
    have split : (if call.stage.found then 1 else 0) =
        (if call.stage.between then 1 else 0) + if call.stage.removed then 1 else 0 := by
      rcases call with ⟨_, (_ | _ | _ | (_ | _)), _⟩ <;> rfl
    simp only [List.countP_cons, ih]
    by_cases own : call.consumerID = consumerID
    · simp only [own, decide_true, Bool.true_and, split]
      omega
    · simp [own]

theorem Tracked.removed_eq_zero (held : Tracked consumerID consumer service)
    (present : service.consumers.lookup consumerID ≠ none) : service.tally consumerID Stage.removed = 0 := by
  by_contra some
  obtain ⟨call, member, own, removed⟩ := ConsumerService.tally_pos.mp (Nat.pos_of_ne_zero some)
  rcases held.pending present call member own with idle | between
  · simp [idle, Stage.removed] at removed
  · cases stage : call.stage <;> simp [stage, Stage.removed, Stage.between] at removed between

theorem found_le_one_step (held : Tracked consumerID consumer service) (alone : Alone consumerID service label)
    (stepped : service.step label = some after) (once : service.tally consumerID Stage.found ≤ 1) :
    after.tally consumerID Stage.found ≤ 1 := by
  rcases found_step consumerID stepped with same | ⟨index, call, rfl, there, own, present, more⟩
  · omega
  · have none : service.tally consumerID Stage.between = 0 := by
      by_contra some
      obtain ⟨other, member, same, between⟩ := ConsumerService.tally_pos.mp (Nat.pos_of_ne_zero some)
      rw [alone call there own other member same] at between
      cases between
    have untouched := held.removed_eq_zero present
    have split := found_eq service consumerID
    omega

theorem two_found_step (held : Tracked consumerID consumer service) (overlapping : ¬Alone consumerID service label)
    (stepped : service.step label = some after) : 2 ≤ after.tally consumerID Stage.found := by
  cases label with
  | register | deregister | delete | emit => exact absurd trivial overlapping
  | retrieve index =>
    simp only [Alone, not_forall, Bool.not_eq_false] at overlapping
    obtain ⟨call, there, own, other, member, same, between⟩ := overlapping
    have one : 0 < service.tally consumerID Stage.between :=
      ConsumerService.tally_pos.mpr ⟨other, member, same, between⟩
    have split := found_eq service consumerID
    cases ConsumerService.step_cases stepped with
    | refuse _ call' there' stage absent =>
      cases there.symm.trans there'
      have gone := held.gone (own ▸ absent)
      have two : 2 ≤ service.tally consumerID Stage.found := by omega
      exact two.trans (found_le_step stepped)
    | retrieve _ call' found there' stage present =>
      cases there.symm.trans there'
      have more := ConsumerService.tally_succ Stage.found there own (.deleting found) call.emitted service.consumers
        (by simp [stage, Stage.found]) rfl
      exact more ▸ (by omega : 2 ≤ service.tally consumerID Stage.found + 1)

/-- Along a run in which every retrieval is on its own at most one call finds the consumer; in any
other run at least two do. -/
theorem found_run {labels : List ServiceStep} (held : Tracked consumerID consumer service)
    (ran : (serviceMachine engine).run (Apart consumerID) service labels = some after) :
    (serviceMachine engine).run (Alone consumerID) service labels = some after ∧
        (service.tally consumerID Stage.found ≤ 1 → after.tally consumerID Stage.found ≤ 1) ∨
      (serviceMachine engine).run (Alone consumerID) service labels = none ∧
        2 ≤ after.tally consumerID Stage.found := by
  induction labels generalizing service with
  | nil =>
    cases ran
    exact .inl ⟨rfl, id⟩
  | cons label rest ih =>
    obtain ⟨next, apart, stepped, later⟩ := Machine.run_cons ran
    by_cases alone : Alone consumerID service label
    · have tail : (serviceMachine engine).run (Alone consumerID) service (label :: rest) =
          (serviceMachine engine).run (Alone consumerID) next rest := by
        simp only [Machine.run, if_pos alone, stepped, Option.bind_some]
      rw [tail]
      exact (ih (tracked_step held apart stepped) later).imp_left (fun kept =>
        ⟨kept.1, fun once => kept.2 (found_le_one_step held alone stepped once)⟩)
    · refine .inr ⟨by simp only [Machine.run, if_neg alone], ?_⟩
      exact (two_found_step held alone stepped).trans (found_le_run later)

theorem tracked_run {labels : List ServiceStep} (held : Tracked consumerID consumer service)
    (ran : (serviceMachine engine).run (Apart consumerID) service labels = some after) :
    Tracked consumerID consumer after := by
  induction labels generalizing service with
  | nil => exact Option.some.inj ran ▸ held
  | cons label rest ih =>
    obtain ⟨next, apart, stepped, later⟩ := Machine.run_cons ran
    exact ih (tracked_step held apart stepped) later

theorem tracked_start {consumers : Repository engine} (registered : consumers.get consumerID = .ok consumer) :
    Tracked consumerID consumer ⟨consumers, []⟩ := by
  have present : consumers.lookup consumerID = some consumer := by
    unfold Repository.get at registered
    split at registered
    next found => exact Except.ok.inj registered ▸ found
    next => cases registered
  exact {
    kept := fun held found => Option.some.inj (found.symm.trans present)
    pending := by simp
    gone := by simp [present]
    each := by simp }

theorem deregisteredOnce_iff_found (held : Tracked consumerID consumer service)
    (completed : service.Completed consumerID) :
    service.DeregisteredOnce consumerID consumer ↔ service.tally consumerID Stage.found = 1 := by
  unfold ConsumerService.tally
  rw [countP_eq_one_iff]
  constructor
  · rintro ⟨index, call, there, own, succeeded, others⟩
    refine ⟨index, call, there, by simp [own, succeeded.1, Stage.found], fun other another apart there' => ?_⟩
    by_cases same : another.consumerID = consumerID
    · obtain ⟨⟨err, refused⟩, -⟩ := others other another apart there' same
      simp [refused, Stage.found]
    · simp [same]
  · rintro ⟨index, call, there, counted, others⟩
    simp only [Bool.and_eq_true, decide_eq_true_eq] at counted
    obtain ⟨own, found⟩ := counted
    refine ⟨index, call, there, own, ?_, fun other another apart there' same => ?_⟩
    · obtain ⟨result, stage⟩ := completed call (List.mem_of_getElem? there) own
      have emitted := held.each call (List.mem_of_getElem? there) own
      cases result with
      | error err => simp [stage, Stage.found] at found
      | ok =>
        simp only [DeregisterCall.Consistent, stage] at emitted
        exact ⟨stage, emitted⟩
    · obtain ⟨result, stage⟩ := completed another (List.mem_of_getElem? there') same
      have emitted := held.each another (List.mem_of_getElem? there') same
      have missed := others other another apart there'
      cases result with
      | error err =>
        simp only [DeregisterCall.Consistent, stage] at emitted
        exact ⟨⟨err, stage⟩, emitted⟩
      | ok => simp [same, stage, Stage.found] at missed

theorem found_pos (held : Tracked consumerID consumer service) (completed : service.Completed consumerID)
    (called : ∃ call ∈ service.calls, call.consumerID = consumerID) : 0 < service.tally consumerID Stage.found := by
  obtain ⟨call, member, own⟩ := called
  obtain ⟨result, stage⟩ := completed call member own
  have absent : service.consumers.lookup consumerID = none := by
    by_contra present
    have pending := held.pending present call member own
    simp [stage, Stage.between] at pending
  have gone := held.gone absent
  have split := found_eq service consumerID
  omega

end Service

/-- Any number of calls of `Deregister` for one registered consumer, in any interleaving without a registration under
its ID: once they have returned, exactly one has succeeded if and only if no call retrieved the consumer between the
retrieval and the deletion of another. -/
theorem deregisteredOnce_iff_alone {engine : RegexpEngine} (consumers : Repository engine) (consumerID : String)
    (consumer : Consumer engine) (registered : consumers.get consumerID = .ok consumer) (labels : List ServiceStep)
    (after : ConsumerService engine)
    (ran : (serviceMachine engine).run (Apart consumerID) ⟨consumers, []⟩ labels = some after)
    (called : ∃ call ∈ after.calls, call.consumerID = consumerID) (completed : after.Completed consumerID) :
    after.DeregisteredOnce consumerID consumer ↔
      (serviceMachine engine).run (Alone consumerID) ⟨consumers, []⟩ labels = some after := by
  have start := tracked_start registered
  have held := tracked_run start ran
  have some := found_pos held completed called
  rw [deregisteredOnce_iff_found held completed]
  rcases found_run start ran with ⟨same, few⟩ | ⟨stopped, two⟩
  · have one := few (Nat.zero_le _)
    exact iff_of_true (by omega) same
  · exact iff_of_false (by omega) (by simp [stopped])

def billing : Consumer .none where
  id := "consumer-1"
  name := "billing"
  groupID := "default"
  filter := .matchAll .none
  transformation := ⟨.none, ""⟩
  status := .active
  createdAt := 0
  updatedAt := 0
  valid := rfl

def billingOnly : Repository .none := Finmap.singleton "consumer-1" billing

def inTurn : List ServiceStep :=
  [.deregister "consumer-1", .deregister "consumer-1", .retrieve 0, .delete 0, .retrieve 1, .emit 0]

def afterTurn : ConsumerService .none where
  consumers := ∅
  calls := [⟨"consumer-1", .returned (.ok ()), [⟨"consumer-1", "default", "consumer-1"⟩]⟩,
    ⟨"consumer-1", .returned (.error "consumer not found: consumer not found"), []⟩]

theorem deregistered_once_in_turn :
    (serviceMachine .none).run (Apart "consumer-1") ⟨billingOnly, []⟩ inTurn = some afterTurn ∧
      afterTurn.DeregisteredOnce "consumer-1" billing := by
  have completed : afterTurn.Completed "consumer-1" := by simp [ConsumerService.Completed, afterTurn]
  refine ⟨rfl, ?_⟩
  exact (deregisteredOnce_iff_alone billingOnly "consumer-1" billing rfl inTurn afterTurn rfl
    ⟨_, List.mem_cons_self, rfl⟩ completed).mpr rfl

/-- Two calls retrieve the consumer before either deletes it: both return nil and emit the event. -/
theorem deregistered_twice : ∃ after,
    (serviceMachine .none).run (Apart "consumer-1") ⟨billingOnly, []⟩
      [.deregister "consumer-1", .deregister "consumer-1", .retrieve 0, .retrieve 1, .delete 0, .delete 1,
        .emit 0, .emit 1] = some after ∧
      after.Completed "consumer-1" ∧ (∀ call ∈ after.calls, call.Succeeded billing) ∧ after.calls.length = 2 ∧
      ¬after.DeregisteredOnce "consumer-1" billing := by
  refine ⟨⟨∅, List.replicate 2 ⟨"consumer-1", .returned (.ok ()), [⟨"consumer-1", "default", "consumer-1"⟩]⟩⟩,
    rfl, ?_, ?_, rfl, ?_⟩
  · intro call member _
    rw [List.eq_of_mem_replicate member]
    exact ⟨_, rfl⟩
  · intro call member
    rw [List.eq_of_mem_replicate member]
    exact ⟨rfl, rfl⟩
  · rintro ⟨index, call, there, -, -, others⟩
    obtain ⟨⟨err, refused⟩, -⟩ := others (if index = 0 then 1 else 0) _ (by split <;> omega)
      (by split <;> rfl) rfl
    cases refused

end EventGateway.Consumers
