import EventGateway.Ingest.Retry
import EventGateway.Registry.Register
import EventGateway.Registry.Validator

/-! Registration and validation as `run` connects them. `SchemaService` writes the
repository and reads the validator, `EventService` reads the same validator, and no
service calls `RegisterSchema`: the validator never learns of a schema. -/

namespace EventGateway.Registry
open Lib Lib.Effect Ingest Replay
variable {κ δ τ : Type}

/-- The parts of the validator that the services call. `RegisterSchema`,
`UnregisterSchema` and `ClearCache` have no caller. -/
def Called : ValidatorAction → Bool
  | .tick _ => true
  | .getSchema _ => true
  | .settle _ => true
  | .delete _ => true
  | .registerSchema .. => false
  | .unregisterSchema _ => false
  | .clearCache => false

/-- A step of a `Register`, or of the validator if the services call it. -/
def wired : Action ⊕ ValidatorAction → Bool
  | .inl _ => true
  | .inr action => Called action

def Served (library : SchemaLibrary κ δ) : State × ValidatorState κ → Prop :=
  (machine.interleave (validatorMachine library fiveMinutes)).Reaches (fun _ label => wired label)

structure ValidateResponse where
  valid : Bool
  error : String
  schemaID : String

/-- The answer of `SchemaService.Validate` over this repository and validator. -/
def validateResponse (library : SchemaLibrary κ δ) (schemas : Repository) (validator : SchemaValidator κ)
    (schemaID : String) (data : Bytes) (now : Time) : ValidateResponse :=
  match schemas.get schemaID with
  | .error err => ⟨false, "schema not found: " ++ err, schemaID⟩
  | .ok _ =>
    match (validator.validate library schemaID data now).1 with
    | .error err => ⟨false, "validation failed: " ++ err, schemaID⟩
    | .ok () => ⟨true, "", schemaID⟩

def SchemaValidator.consults (sv : SchemaValidator κ) (schemaID : String) (data : Bytes) : Bool :=
  schemaID ≠ "" && data ≠ [] && (sv.schemas schemaID).isSome && (sv.cache schemaID).isSome

/-- The surroundings of `EventService` with the validator as its schema validator. -/
def validatorSurroundings (library : SchemaLibrary κ δ) (now : τ → Time × τ)
    (publish : Event → String → Effect τ Unit) : Surroundings (SchemaValidator κ × τ) where
  now state := ((now state.2).1, state.1, (now state.2).2)
  publish event topic := fun state =>
    ((publish event topic state.2).1, state.1, (publish event topic state.2).2)
  validate schemaID data := fun state =>
    let (time, later) := now state.2
    let (result, validator) := state.1.validate library schemaID data time
    (result, validator, if state.1.consults schemaID data then later else state.2)

def Conforms (library : SchemaLibrary κ δ) (definition : String) (data : Bytes) : Prop :=
  ∃ schema value, library.compile definition = .ok schema ∧ library.parse data = .ok value ∧
    library.validate schema value = .ok ()

def RejectedForSchema (result : Except String String) : Prop :=
  ∃ reason, result = .error ("schema validation failed: " ++ reason)

/-- `Validate` answers whether the data conforms, and ingestion under this schema ID is rejected for
schema reasons exactly if that answer is no. -/
structure Agrees (library : SchemaLibrary κ δ) (definition : String) (schemas : Repository)
    (validator : SchemaValidator κ) (schemaID : String) (time : Time) (request : IngestEventRequest)
    (ingested : Except String String) : Prop where
  answer : (validateResponse library schemas validator schemaID request.data time).valid = true ↔
    Conforms library definition request.data
  rejection : RejectedForSchema ingested ↔
    (validateResponse library schemas validator schemaID request.data time).valid = false

section Unlearned
variable {library : SchemaLibrary κ δ}

def SchemaValidator.Unlearned (sv : SchemaValidator κ) : Prop := ∀ schemaID, sv.schemas schemaID = none

theorem SchemaValidator.Unlearned.remove {sv : SchemaValidator κ} (unlearned : sv.Unlearned) (schemaID : String) :
    (sv.remove schemaID).Unlearned := by
  intro other
  simp only [SchemaValidator.remove, Function.update_apply, unlearned other, ite_self]

theorem unlearned_of_called {cacheTTL : Duration} {state : ValidatorState κ}
    (reached : (validatorMachine library cacheTTL).Reaches (fun _ action => Called action) state) :
    state.validator.Unlearned := by
  apply reached.invariant (fun state => state.validator.Unlearned)
  · intro state initial schemaID
    rw [initial.1]
    rfl
  · intro state action after _ unlearned called stepped
    cases validatorStep_cases stepped with
    | idle | tick | read | settle => exact unlearned
    | delete index schemaID found => exact unlearned.remove schemaID
    | write | unregister | clear => cases called

theorem Served.unlearned {services : State × ValidatorState κ} (served : Served library services) :
    services.2.validator.Unlearned := by
  have called : (validatorMachine library fiveMinutes).Reaches (fun _ action => Called action) services.2 :=
    Machine.Reaches.right (fun _ _ admitted => admitted) served
  exact unlearned_of_called called

theorem SchemaValidator.Unlearned.validate {sv : SchemaValidator κ} (unlearned : sv.Unlearned)
    (library : SchemaLibrary κ δ) (schemaID : String) (data : Bytes) (now : Time) :
    ∃ err, sv.validate library schemaID data now = (.error err, sv) := by
  have missing : ∃ err, sv.getSchema library schemaID now = (.error err, sv) := by
    simp only [SchemaValidator.getSchema, SchemaValidator.read, unlearned schemaID]
    split
    next bad => split at bad <;> cases bad
    next bad => split at bad <;> cases bad
    next result found =>
      split at found
      · cases found
        exact ⟨_, rfl⟩
      · cases found
        exact ⟨_, rfl⟩
  obtain ⟨err, missing⟩ := missing
  unfold SchemaValidator.validate
  split
  next => exact ⟨_, rfl⟩
  split
  next => exact ⟨_, rfl⟩
  rw [missing]
  exact ⟨err, rfl⟩

theorem validateResponse_unlearned (library : SchemaLibrary κ δ) {validator : SchemaValidator κ}
    (unlearned : validator.Unlearned) (schemas : Repository) (schemaID : String) (data : Bytes) (now : Time) :
    (validateResponse library schemas validator schemaID data now).valid = false := by
  obtain ⟨err, failed⟩ := unlearned.validate library schemaID data now
  unfold validateResponse
  split
  next => rfl
  next => rw [failed]

end Unlearned

section Refusal
variable {σ : Type} {ports : Ports σ} {holds : σ → Prop}

def refusalContext (request : IngestEventRequest) : String :=
  if request.Valid then "schema validation failed: " else "invalid event request: "

theorem validateAndEnrichEvent_refuses (clock : ∀ state, holds state → holds (ports.now state).2)
    (refuses : ∀ schemaID data, Refuses holds (ports.validate schemaID data) (fun _ => True))
    (request : IngestEventRequest) (asks : request.schemaURL ≠ "") {eventID : String} (named : eventID ≠ "")
    (correlationID : String) :
    Refuses holds (ports.validateAndEnrichEvent request eventID correlationID)
      (fun err => ∃ reason, err = refusalContext request ++ reason) := by
  apply (now_kept clock).refuses
  intro timestamp
  apply (now_kept clock).refuses
  intro createdAt
  split
  next err failed =>
    apply Refuses.fail
    exact ⟨err, by rw [refusalContext, if_neg (IngestEventRequest.not_valid_of_toEntity failed named)]⟩
  next event built =>
    have valid := (IngestEventRequest.toEntity_ok built).2.2
    rw [if_pos asks]
    apply Refuses.head
    apply Refuses.wrap
    intro state start
    obtain ⟨err, final, ran, -⟩ := refuses request.schemaURL request.data state start
    exact ⟨err, final, ran, err, by rw [refusalContext, if_pos valid]⟩

/-- A validator that refuses everything makes every ingestion with a schema ID fail: for schema
reasons if the request is valid otherwise, and before the validator is asked if not. -/
theorem ingestEvent_refuses (clock : ∀ state, holds state → holds (ports.now state).2)
    (refuses : ∀ schemaID data, Refuses holds (ports.validate schemaID data) (fun _ => True))
    (request : IngestEventRequest) (asks : request.schemaURL ≠ "") :
    Refuses holds (ports.ingestEvent request) (fun err => ∃ reason, err = refusalContext request ++ reason) := by
  apply (generateID_kept clock).refuses
  intro eventID
  apply Refuses.given
  intro named
  apply (correlationOr_kept clock _).refuses
  intro correlationID
  exact (validateAndEnrichEvent_refuses clock refuses request asks named correlationID).head

end Refusal

theorem refusalContext_schema {request : IngestEventRequest} {reason reason' : String}
    (same : refusalContext request ++ reason = "schema validation failed: " ++ reason') : request.Valid := by
  by_contra invalid
  rw [refusalContext, if_neg invalid] at same
  have letters := congrArg (fun text => text.toList.head?) same
  simp only [String.toList_append, List.head?_append] at letters
  have first : "invalid event request: ".toList.head? = some 'i' := by decide
  have second : "schema validation failed: ".toList.head? = some 's' := by decide
  rw [first, second, Option.some_or, Option.some_or] at letters
  exact absurd letters (by decide)

theorem returned_ne {state : State} (reached : machine.Reachable state) :
    ∀ call ∈ state.calls, ∀ id, call.stage = .returned (.ok id) → id ≠ "" := by
  apply reached.invariant (fun state => ∀ call ∈ state.calls, ∀ id, call.stage = .returned (.ok id) → id ≠ "")
  · rintro state rfl call member
    exact absurd member List.not_mem_nil
  · intro state action after _ named _ stepped
    cases step_cases stepped with
    | refused | register =>
      intro call member id done
      rcases List.mem_append.mp member with old | new
      · exact named call old id done
      · cases List.mem_singleton.mp new
        cases done
    | duplicate | check =>
      intro call member id done
      rcases List.mem_or_eq_of_mem_set member with old | rfl
      · exact named call old id done
      · cases done
    | save index request schema found =>
      intro call member id done
      rcases List.mem_or_eq_of_mem_set member with old | rfl
      · exact named call old id done
      · cases done
        exact schema.id_ne

theorem ingestion_refused (library : SchemaLibrary κ δ) (now : τ → Time × τ)
    (publish : Event → String → Effect τ Unit) (request : IngestEventRequest) (asks : request.schemaURL ≠ "") :
    Refuses (fun memory : Memory (SchemaValidator κ × τ) => memory.2.1.Unlearned)
      ((validatorSurroundings library now publish).ports.ingestEvent request)
      (fun err => ∃ reason, err = refusalContext request ++ reason) := by
  apply ingestEvent_refuses (fun _ unlearned => unlearned) _ request asks
  rintro schemaID data ⟨store, validator, rest⟩ unlearned
  obtain ⟨err, failed⟩ := unlearned.validate library schemaID data (now rest).1
  have ran : (validatorSurroundings library now publish).ports.validate schemaID data (store, validator, rest) =
      (.error err, store, validator, if validator.consults schemaID data then (now rest).2 else rest) := by
    simp only [Surroundings.ports, Surroundings.outside, validatorSurroundings, failed]
  exact ⟨err, _, ran, trivial⟩

/-- As wired, the answer for a registered schema agrees with conformance exactly for data that does not
conform, and ingestion agrees with the answer exactly for requests that pass entity validation. -/
theorem validation_agrees_iff (library : SchemaLibrary κ δ) {services : State × ValidatorState κ}
    (served : Served library services) {call : RegisterCall} (member : call ∈ services.1.calls) {schemaID : String}
    (registered : call.stage = .returned (.ok schemaID))
    (now : τ → Time × τ) (publish : Event → String → Effect τ Unit) (store : InMemoryEventStore) (rest : τ)
    (request : IngestEventRequest) (asks : request.schemaURL = schemaID) :
    Agrees library call.request.definition services.1.schemas services.2.validator schemaID services.2.clock request
        ((validatorSurroundings library now publish).ports.ingestEvent request
          (store, services.2.validator, rest)).1 ↔
      ¬Conforms library call.request.definition request.data ∧ request.Valid := by
  have registry : machine.Reachable services.1 := Machine.Reaches.left (fun _ _ _ => trivial) served
  have unlearned := served.unlearned
  have answer := validateResponse_unlearned library unlearned services.1.schemas schemaID request.data
    services.2.clock
  have named : request.schemaURL ≠ "" := asks ▸ returned_ne registry call member schemaID registered
  obtain ⟨err, final, ran, reason, said⟩ := ingestion_refused library now publish request named
    (store, services.2.validator, rest) unlearned
  rw [ran]
  constructor
  · intro agrees
    constructor
    · intro conforms
      rw [agrees.answer.mpr conforms] at answer
      cases answer
    · obtain ⟨reason', rejected⟩ := agrees.rejection.mpr answer
      exact refusalContext_schema (said.symm.trans (Except.error.inj rejected))
  · rintro ⟨failing, valid⟩
    constructor
    · rw [answer]
      exact ⟨fun bad => (by cases bad), fun conforms => absurd conforms failing⟩
    · refine ⟨fun _ => answer, fun _ => ⟨reason, ?_⟩⟩
      rw [said, refusalContext, if_pos valid]

def ordersCall : RegisterCall := ⟨ordersRequest, .returned (.ok "1000-1")⟩

theorem served_orders (library : SchemaLibrary κ δ) : ∃ services, Served library services ∧
    ordersCall ∈ services.1.calls := by
  obtain ⟨services, served, outcome⟩ := (machine.interleave (validatorMachine library fiveMinutes)).reaches_of_run
    (fun _ label => wired label) (.initial, ⟨.newSchemaValidator fiveMinutes, [], 0⟩)
    [.inl (.register ordersRequest 1000 1001 1002), .inl (.check 0), .inl (.save 0)]
    (fun services => services.1.calls = [ordersCall]) ⟨rfl, rfl, rfl⟩ rfl
  refine ⟨services, served, ?_⟩
  rw [of_decide_eq_true outcome]
  exact List.mem_singleton_self _

theorem validation_agrees_unparsed : ∃ services call, Served orderSchemas services ∧ call ∈ services.1.calls ∧
    call.stage = .returned (.ok "1000-1") ∧
    Agrees orderSchemas call.request.definition services.1.schemas services.2.validator "1000-1" services.2.clock
      { sampleRequest "" with data := [0x78], schemaURL := "1000-1" }
      ((validatorSurroundings orderSchemas (fun time : Time => (time, time + 1))
        (fun _ _ => pure ())).ports.ingestEvent { sampleRequest "" with data := [0x78], schemaURL := "1000-1" }
        (.newInMemoryEventStore 0 0, services.2.validator, 0)).1 := by
  obtain ⟨services, served, member⟩ := served_orders orderSchemas
  refine ⟨services, ordersCall, served, member, rfl, ?_⟩
  apply (validation_agrees_iff orderSchemas served member rfl _ _ _ _ _ rfl).mpr
  refine ⟨?_, by decide⟩
  rintro ⟨schema, value, -, parsed, -⟩
  cases parsed

/-- A schema is registered, the data conforms to it, and `Validate` still answers no. -/
theorem validation_refuses_conforming : ∃ services call, Served orderSchemas services ∧
    call ∈ services.1.calls ∧ call.stage = .returned (.ok "1000-1") ∧
    Conforms orderSchemas call.request.definition [0x31] ∧
    (validateResponse orderSchemas services.1.schemas services.2.validator "1000-1" [0x31]
      services.2.clock).valid = false := by
  obtain ⟨services, served, member⟩ := served_orders orderSchemas
  refine ⟨services, ordersCall, served, member, rfl, ⟨(), (), rfl, rfl, rfl⟩, ?_⟩
  exact validateResponse_unlearned orderSchemas served.unlearned _ _ _ _

end EventGateway.Registry
